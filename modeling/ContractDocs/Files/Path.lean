/-
Paths as bytes, and what their components are. A path is absolute when it
starts with a slash; repeated slashes and `.` count for nothing, except for
a `.` at the very start, which is a component of its own. `join` and `child`
extend a path, `relative` writes one path as seen from another.
-/
import ContractDocs.Text.Utf8
import ContractDocs.Text.Words

namespace ContractDocs.Path

-- ======================================================== components

/-- What separates the components of a path. -/
abbrev slash : UInt8 := 47

/-- What separates a file name from its extension. -/
abbrev dot : UInt8 := 46

/-- One step of a path. -/
inductive Component where
  | root
  /-- A `.` at the start of a relative path. -/
  | here
  | parent
  | name (bytes : Bytes)
deriving DecidableEq, Repr

namespace Component

/-- How a component is written. -/
def bytes : Component → Bytes
  | root => [slash]
  | here => [dot]
  | parent => [dot, dot]
  | name bytes => bytes

/-- What stands between two slashes after the start; nothing and `.` are no component. -/
def ofSegment? (segment : Bytes) : Option Component :=
  if segment = [] ∨ segment = [dot] then none
  else if segment = [dot, dot] then some parent
  else some (name segment)

end Component

/-- The components of a path. -/
def components (path : Bytes) : List Component :=
  match path.splitOn slash with
  | [] => []
  | first :: rest =>
    let others := rest.filterMap Component.ofSegment?
    if first = [] then (if rest = [] then [] else .root :: others)
    else if first = [dot] then .here :: others
    else (Component.ofSegment? first).toList ++ others

/-- Whether a path starts at the root. -/
def isAbsolute (path : RawText) : Bool :=
  path.bytes.head? == some slash

-- =========================================================== joining

/-- `path` extended by `more` behind a separator; `more` takes its place when it starts with
one. -/
def extend {α : Type} [DecidableEq α] (separator : α) (path more : List α) : List α :=
  if more.head? = some separator then more
  else if path = [] ∨ path.getLast? = some separator then path ++ more
  else path ++ separator :: more

/-- `path` extended by `more`; an absolute `more` takes its place. -/
@[irreducible] def join (path more : String) : String :=
  String.ofList (extend '/' path.toList more.toList)

/-- The path of a name in the directory at a path. -/
def child (path name : RawText) : RawText :=
  ⟨extend slash path.bytes name.bytes⟩

-- ==================================================== relative paths

/-- The components after those of `root`; all of them when `path` does not lie below it. -/
def below (root path : List Component) : List Component :=
  if root.isPrefixOf path then path.drop root.length else path

/-- Components as text, with slashes between them. -/
def write (parts : List Component) : List Char :=
  ['/'].intercalate (parts.map fun part => Text.lossy part.bytes)

/-- The text without any `./` at its start. -/
def dropHere : List Char → List Char
  | '.' :: '/' :: rest => dropHere rest
  | path => path

/-- `path` as seen from `root`, as text, with single slashes and without a leading `./`. -/
def relative (root path : RawText) : String :=
  String.ofList (dropHere (write (below (components root.bytes) (components path.bytes))))

-- ======================================================== file names

/-- What follows the last dot of a file name. A name whose only dot is its first byte has no
extension. -/
def extension? (name : Bytes) : Option Bytes :=
  match Text.cutLast dot name with
  | some ([], _) | none => none
  | some (_, ext) => if name = [dot, dot] then none else some ext

end ContractDocs.Path
