/-
A tree of files, from the top of the file system down, as a program sees it
that runs in one of its directories. Names are bytes, which may be no text.
Directories keep their entries in the order of their names, links hold the
path they were given, and a source file carries the syntax tree a parser made
of it. An entry may be locked: the program may not open it.

`resolve` leads a path to a place in the tree. It follows links, at most
forty of them, and the system takes no path that is longer than
`longestPath`.
-/
import ContractDocs.Files.Path
import ContractDocs.Source.Node

namespace ContractDocs

-- =========================================================== the tree

/-- What a name in a directory stands for. -/
inductive Entry where
  | file (bytes : ByteArray) (tree : Option Tree)
  | link (target : RawText)
  | dir (entries : List (RawText × Entry))
  /-- A directory, or a file, that may not be opened. -/
  | locked (isDir : Bool)
deriving Inhabited

/-- The names of a directory with what they stand for. -/
abbrev Entries := List (RawText × Entry)

namespace Entry

/-- The entry that a sequence of names leads to, links not followed. -/
def get? : Entry → List RawText → Option Entry
  | entry, [] => some entry
  | dir entries, name :: names => (entries.lookup name).bind (·.get? names)
  | _, _ :: _ => none

/-- Whether an entry is a directory. -/
def isDir : Entry → Bool
  | dir _ => true
  | locked isDir => isDir
  | _ => false

/-- Whether an entry is a file. -/
def isFile : Entry → Bool
  | file .. => true
  | locked isDir => !isDir
  | _ => false

/-- Whether an entry may not be opened. -/
def isLocked : Entry → Bool
  | locked _ => true
  | _ => false

end Entry

/-- A place in the tree: the names on the way from the top. -/
abbrev Location := List RawText

namespace Location

/-- The top of the tree. -/
def top : Location := []

/-- The directory that holds a place; the top holds itself. -/
def parent (place : Location) : Location := place.dropLast

/-- The place of a name in a directory. -/
def child (place : Location) (name : RawText) : Location := place ++ [name]

end Location

/-- A tree of files, with the directory that a program runs in. -/
structure Files where
  top : Entries
  workingDir : Location := .top
deriving Inhabited

-- ============================================================= errors

/-- Why a path cannot be used. -/
inductive FileError where
  | missing
  | denied
  | notDirectory
  | isDirectory
  | nameTooLong
  | tooManyLinks
  | notText
deriving DecidableEq, Repr

namespace FileError

/-- The error in words. -/
def message : FileError → String
  | missing => "No such file or directory (os error 2)"
  | denied => "Permission denied (os error 13)"
  | notDirectory => "Not a directory (os error 20)"
  | isDirectory => "Is a directory (os error 21)"
  | nameTooLong => "File name too long (os error 36)"
  | tooManyLinks => "Too many levels of symbolic links (os error 40)"
  | notText => "stream did not contain valid UTF-8"

end FileError

namespace Files

-- ========================================================= resolution

/-- The tree that holds nothing but an empty directory to run in. -/
def empty : Files := ⟨[("work", .dir [])], ["work"]⟩

/-- The entry at a place. -/
def entry? (files : Files) (place : Location) : Option Entry :=
  (Entry.dir files.top).get? place

/-- Whether a place is a directory. -/
def isDirAt (files : Files) (place : Location) : Bool :=
  (files.entry? place).any Entry.isDir

/-- Whether what is at a place may not be opened. -/
def isLockedAt (files : Files) (place : Location) : Bool :=
  (files.entry? place).any Entry.isLocked

/-- What stands between the slashes of a path. -/
def segments (path : RawText) : List RawText :=
  (path.bytes.splitOn Path.slash).map RawText.mk

/-- Where a path starts that is written in a directory. -/
def startOf (dir : Location) (path : RawText) : Location :=
  if Path.isAbsolute path then .top else dir

/-- How many links one path may lead through. -/
def linkLimit : Nat := 40

/-- How many bytes a path may have. -/
def longestPath : Nat := 4095

/-- How many bytes a name may have. -/
def longestName : Nat := 255

/-- Whether a path is too long to be opened. -/
def isTooLong (path : RawText) : Bool :=
  longestPath < path.bytes.length

/-- Where the segments of a path lead from a place. A link puts the segments of its target in
front of the rest. -/
def follow (files : Files) (links : Nat) (place : Location) :
    List RawText → Except FileError Location
  | [] => .ok place
  | segment :: rest =>
    if !files.isDirAt place then .error .notDirectory
    else if segment = "" then files.follow links place rest
    else if files.isLockedAt place then .error .denied
    else if segment = "." then files.follow links place rest
    else if segment = ".." then files.follow links place.parent rest
    else if longestName < segment.bytes.length then .error .nameTooLong
    else match files.entry? (place.child segment) with
      | none => .error .missing
      | some (.link target) =>
        match links with
        | 0 => .error .tooManyLinks
        | left + 1 => files.follow left (startOf place target) (segments target ++ rest)
      | some _ => files.follow links (place.child segment) rest
termination_by segs => (links, segs.length)

/-- Where a path leads. -/
def resolve (files : Files) (path : RawText) : Except FileError Location :=
  if path = "" then .error .missing
  else if isTooLong path then .error .nameTooLong
  else files.follow linkLimit (startOf files.workingDir path) (segments path)

/-- The place and the entry a path leads to. -/
def lookup (files : Files) (path : RawText) : Except FileError (Location × Entry) := do
  let place ← files.resolve path
  match files.entry? place with
  | some entry => return (place, entry)
  | none => throw .missing

/-- The bytes of the file at a path, with its syntax tree. -/
def read (files : Files) (path : RawText) : Except FileError (ByteArray × Option Tree) := do
  match (← files.lookup path).2 with
  | .file bytes tree => return (bytes, tree)
  | .locked _ => throw .denied
  | _ => throw .isDirectory

/-- The text of the file at a path. -/
def readText (files : Files) (path : RawText) : Except FileError String := do
  match String.fromUTF8? (← files.read path).1 with
  | some text => return text
  | none => throw .notText

/-- Whether a path leads to a file. -/
def isFile (files : Files) (path : RawText) : Bool :=
  match files.lookup path with
  | .ok (_, entry) => entry.isFile
  | .error _ => false

end Files

end ContractDocs
