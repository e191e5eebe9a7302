/-
Changes to a tree of files: writing, making directories and links, and
removing. Directories on the way to a new entry are made when they are
missing. A change that a path does not allow leaves the tree as it is.
-/
import ContractDocs.Files.Basic

namespace ContractDocs

namespace Entry

/-- The entries with `name` standing for `entry`, in the order of their names. -/
def put (name : RawText) (entry : Entry) : Entries → Entries
  | [] => [(name, entry)]
  | (other, old) :: rest =>
    if name.bytes < other.bytes then (name, entry) :: (other, old) :: rest
    else if name = other then (name, entry) :: rest
    else (other, old) :: put name entry rest

/-- The entries without `name`. -/
def erase (name : RawText) (entries : Entries) : Entries :=
  entries.filter (·.1 ≠ name)

/-- Changes the directory that a sequence of names leads to. -/
def edit (change : Entries → Entries) : List RawText → Entries → Entries
  | [], entries => change entries
  | name :: names, entries =>
    entries.map fun (other, entry) =>
      match entry with
      | dir inner => (other, if other = name then dir (edit change names inner) else entry)
      | _ => (other, entry)

end Entry

namespace Files

/-- Changes the directory at a place. -/
def editAt (files : Files) (change : Entries → Entries) (place : Location) : Files :=
  { files with top := Entry.edit change place files.top }

/-- The directory that segments lead to, made when it is missing. -/
def reach (files : Files) (links : Nat) (place : Location) :
    List RawText → Option (Files × Location)
  | [] => some (files, place)
  | segment :: rest =>
    if segment = "" ∨ segment = "." then files.reach links place rest
    else if segment = ".." then files.reach links place.parent rest
    else
      let next := place.child segment
      match files.entry? next with
      | none => (files.editAt (Entry.put segment (.dir [])) place).reach links next rest
      | some (.dir _) => files.reach links next rest
      | some (.link target) =>
        match links with
        | 0 => none
        | left + 1 => files.reach left (startOf place target) (segments target ++ rest)
      | some _ => none
termination_by segs => (links, segs.length)

/-- Puts an entry where segments lead from a place. With links left, a link that has the name
already is written through. -/
def putAt (files : Files) (entry : Entry) (links : Nat) (place : Location)
    (segs : List RawText) : Option Files := do
  let name ← segs.getLast?
  let (files, dir) ← files.reach linkLimit place segs.dropLast
  match files.entry? (dir.child name) with
  | some (.dir _) => none
  | some (.link target) =>
    match links with
    | 0 => return files.editAt (Entry.put name entry) dir
    | left + 1 => files.putAt entry left (startOf dir target) (segments target)
  | _ => return files.editAt (Entry.put name entry) dir
termination_by links

/-- A file at a path, in place of the one that was there. -/
def write (files : Files) (path : RawText) (bytes : ByteArray) (tree : Option Tree) : Files :=
  (files.putAt (.file bytes tree) linkLimit (startOf files.workingDir path)
    (segments path)).getD files

/-- A link at a path. -/
def makeLink (files : Files) (path target : RawText) : Files :=
  (files.putAt (.link target) 0 (startOf files.workingDir path) (segments path)).getD files

/-- A directory at a path. -/
def makeDir (files : Files) (path : RawText) : Files :=
  match files.reach linkLimit (startOf files.workingDir path) (segments path) with
  | some (files, _) => files
  | none => files

/-- The tree without the entry at a path; a directory goes with all it holds. -/
def remove (files : Files) (path : RawText) : Files :=
  let segs := (segments path).reverse.dropWhile (·.bytes = []) |>.reverse
  match segs.getLast?, files.follow linkLimit (startOf files.workingDir path) segs.dropLast with
  | some name, .ok dir => files.editAt (Entry.erase name) dir
  | _, _ => files

end Files

end ContractDocs
