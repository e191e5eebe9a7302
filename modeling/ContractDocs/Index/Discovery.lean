/-
Finding source files. A walk goes through a directory and everything below
it, links included, names in order; a link back to a directory the walk is
in is reported and not entered, and so is a directory that cannot be opened.
Of the files it meets, those with the source extension that no exclusion
pattern accepts are the sources, in the order of their relative paths.

The walk recurses on the tree. Only a link leads away from it, and the
directories entered through links are all different along one branch, so
the number of directories bounds how many links a branch goes through.
-/
import ContractDocs.Config.Basic
import ContractDocs.Diagnostic
import ContractDocs.Files.Basic

namespace ContractDocs

-- ======================================================= directories

mutual

/-- The number of directories at and below an entry. -/
def Entry.dirCount : Entry → Nat
  | .dir entries => Entry.dirCounts entries + 1
  | _ => 0

/-- The number of directories among and below some entries. -/
def Entry.dirCounts : Entries → Nat
  | [] => 0
  | (_, entry) :: rest => entry.dirCount + Entry.dirCounts rest

end

-- ============================================================== walk

/-- What a walk comes across, by the path it took. -/
inductive Sighting where
  | file (path : RawText)
  | unreadable (path : RawText) (cause : FileError)
  /-- A link to a directory that the walk is inside of. -/
  | loop (path ancestor : RawText)
deriving DecidableEq, Repr

namespace Sighting

/-- What a sighting adds to the diagnostics, for a walk from `root`. -/
def diagnostic? (root : RawText) : Sighting → Option Diagnostic
  | file _ => none
  | unreadable path cause =>
    some (.warning ("cannot read " ++ Path.relative root path ++ ": IO error for operation on "
      ++ path.text ++ ": " ++ cause.message))
  | loop path ancestor =>
    some (.warning ("cannot read " ++ Path.relative root path ++ ": File system loop found: "
      ++ path.text ++ " points to an ancestor " ++ ancestor.text))

/-- The path of a file. -/
def file? : Sighting → Option RawText
  | file path => some path
  | _ => none

end Sighting

/-- A directory the walk is in: the path it took and the place that is. -/
structure Visited where
  path : RawText
  place : Location
deriving DecidableEq, Repr

/-- Whether a directory name is a hidden one. -/
def isHiddenName (name : RawText) : Bool :=
  name.text.toList.head? = some '.'

namespace Files

/-- Walks through the entries of a directory, `trail` being the directories around them with the
nearest first. -/
def walk (files : Files) (includeHidden : Bool) (links : Nat) (dir : Visited)
    (trail : List Visited) : Entries → List Sighting
  | [] => []
  | (name, entry) :: rest =>
    let path := Path.child dir.path name
    let skipped := !includeHidden && isHiddenName name
    let seen := match entry with
      | .file .. | .locked false => [.file path]
      | .dir entries =>
        if skipped then []
        else if isTooLong path then [.unreadable path .nameTooLong]
        else files.walk includeHidden links ⟨path, dir.place.child name⟩ (dir :: trail) entries
      | .locked true =>
        if skipped then []
        else [.unreadable path (if isTooLong path then .nameTooLong else .denied)]
      | .link _ =>
        match files.lookup path with
        | .error cause => [.unreadable path cause]
        | .ok (place, .dir entries) =>
          match (dir :: trail).find? (·.place = place) with
          | some ancestor => [.loop path ancestor.path]
          | none =>
            match links with
            | 0 => []
            | left + 1 =>
              if skipped then []
              else files.walk includeHidden left ⟨path, place⟩ (dir :: trail) entries
        | .ok (_, .locked true) => if skipped then [] else [.unreadable path .denied]
        | .ok _ => [.file path]
    seen ++ files.walk includeHidden links dir trail rest
termination_by entries => (links, sizeOf entries)

end Files

-- =========================================================== sources

/-- A source file that was found. -/
structure SourceFile where
  /-- Its path as seen from the lookup path. -/
  relative : String
  /-- The path to open it by. -/
  opened : RawText
deriving DecidableEq, Repr, Inhabited

namespace SourceFile

/-- The path to open a file by, as it is shown. -/
def path (file : SourceFile) : String :=
  file.opened.text

/-- The extension of source files, in lower case. -/
def extension : List Char := "sol".toList

/-- Whether a path has the extension of source files, in any case. -/
def isSource (path : RawText) : Bool :=
  match (Files.segments path).getLast? with
  | some name =>
    (((Path.extension? name.bytes).bind Text.ofUtf8?).map fun ext => ext.toList.map Char.toLower)
      = some extension
  | none => false

/-- The source files among sightings, in the order of their relative paths. -/
def ofSightings (root : RawText) (excluded : List Glob) (sightings : List Sighting) :
    List SourceFile :=
  let sources := (sightings.filterMap Sighting.file?).filter isSource
  let found := sources.map fun path => (⟨Path.relative root path, path⟩ : SourceFile)
  (found.filter fun file => !Glob.anyAccepts excluded file.relative).mergeSort
    fun a b => a.relative ≤ b.relative

/-- The source files below a directory, with a warning for what could not be looked at. -/
def discover (files : Files) (root : RawText) (config : Config) :
    Except Failure (List SourceFile × List Diagnostic) := do
  match files.lookup root with
  | .error cause => throw (.inaccessible root.text cause.message)
  | .ok (place, .dir entries) =>
    let excluded ← config.exclusions
    let sightings :=
      files.walk config.includeHidden (Entry.dirCounts files.top + 2) ⟨root, place⟩ [] entries
    return (ofSightings root excluded sightings, sightings.filterMap (·.diagnostic? root))
  | .ok (_, .locked true) => throw (.inaccessible root.text FileError.denied.message)
  | .ok _ => throw (.inaccessible root.text "not a directory")

end SourceFile

end ContractDocs
