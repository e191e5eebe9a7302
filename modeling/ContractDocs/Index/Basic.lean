/-
The index of a source directory. Files are taken one after the other: each
adds its records, the warnings found in it, and a warning for every
declaration that repeats an earlier one. A file that cannot be indexed is
reported and left out, or stops the indexing, as the configuration says.
-/
import ContractDocs.Index.Discovery
import ContractDocs.Registry.Basic
import ContractDocs.Source.Walk

namespace ContractDocs

/-- Records and diagnostics collected so far. -/
structure Index where
  registry : Registry := .empty
  diagnostics : List Diagnostic := []

namespace Index

/-- Adds a diagnostic at the end. -/
def report (index : Index) (d : Diagnostic) : Index :=
  { index with diagnostics := index.diagnostics ++ [d] }

/-- The warning for a declaration that repeats `first`. -/
def duplicate (file : String) (record first : Record) : Diagnostic :=
  .warningAt file record.line
    ("duplicate " ++ record.kind.label ++ " `" ++ record.targetId ++ "` at " ++ record.location
      ++ " (first declared at " ++ first.location ++ ")")

/-- Adds a record of a file. -/
def addRecord (file : String) (index : Index) (record : Record) : Index :=
  let (registry, inserted) := index.registry.insert record
  let next := { index with registry }
  match inserted.duplicateOf.bind registry.get? with
  | some first => next.report (duplicate file record first)
  | none => next

/-- What indexing one file yields. -/
structure FileResult where
  definitions : Definitions
  /-- The parser had to skip or insert something. -/
  recovered : Bool

/-- A file without any node. -/
def emptyTree : Tree :=
  ⟨⟨"source_file", true, none, 0, 0, 0, []⟩, false⟩

/-- Reads a source file and collects its declarations. -/
def readFile (files : Files) (file : SourceFile) : Except Failure FileResult :=
  match files.read file.opened with
  | .error cause => .error (.io file.path cause.message)
  | .ok (bytes, tree) =>
    let tree := tree.getD emptyTree
    match (Source.mk file.relative bytes tree.root tree.recovered).definitions with
    | .ok definitions => .ok ⟨definitions, tree.recovered⟩
    | .error violation => .error (.nesting violation)

/-- The note on a file with syntax errors. -/
def recoveredNote (file : String) : Diagnostic :=
  { severity := .info
    message := "syntax errors in file; only recovered declarations are indexed"
    place := some ⟨file, 0⟩ }

/-- Adds what a file yields. -/
def addFile (index : Index) (file : String) (result : FileResult) : Index :=
  let noted := if result.recovered then index.report (recoveredNote file) else index
  let warned := { noted with diagnostics := noted.diagnostics ++ result.definitions.diagnostics }
  result.definitions.records.foldl (addRecord file) warned

/-- Adds files in order. A failure that does not end the indexing is reported; one that does is
handed back with what was collected before it. -/
def addFiles (policy : FilePolicy) (read : SourceFile → Except Failure FileResult)
    (index : Index) : List SourceFile → Index × Option Failure
  | [] => (index, none)
  | file :: rest =>
    match read file with
    | .ok result => addFiles policy read (index.addFile file.relative result) rest
    | .error failure =>
      if failure.isFileScoped && policy = .skip then
        addFiles policy read (index.report (.ofFileFailure file.relative failure)) rest
      else (index, some failure)

/-- Indexes the sources below a directory on top of what an index holds. -/
def extend (files : Files) (root : RawText) (config : Config) (index : Index) :
    Index × Option Failure :=
  match SourceFile.discover files root config with
  | .error failure => (index, some failure)
  | .ok (sources, warnings) =>
    addFiles config.onFileError (readFile files)
      { index with diagnostics := index.diagnostics ++ warnings } sources

end Index

end ContractDocs
