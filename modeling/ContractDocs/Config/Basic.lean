/-
The configuration of a build: where the sources are, which of them to leave
out, and what to do about a file that cannot be indexed.
-/
import ContractDocs.Failure
import ContractDocs.Files.Path
import ContractDocs.Glob.Match

namespace ContractDocs

/-- What happens to a build when one file cannot be indexed. -/
inductive FilePolicy where
  /-- The file is left out and reported. -/
  | skip
  /-- The build stops. -/
  | abort
deriving DecidableEq, Repr, Inhabited

namespace FilePolicy

/-- How a policy is written. -/
def name : FilePolicy → String
  | skip => "continue"
  | abort => "abort"

/-- Reads a policy. -/
def ofName? (text : String) : Option FilePolicy :=
  [skip, abort].find? (·.name = text)

end FilePolicy

/-- The configuration of a build. -/
structure Config where
  /-- The directory of the sources, as seen from the documentation. -/
  lookupPath : String := "../contracts"
  /-- Patterns of source files to leave out. -/
  excludedPaths : List String := []
  /-- Whether directories whose name starts with a dot are searched. -/
  includeHidden : Bool := false
  onFileError : FilePolicy := .skip
deriving DecidableEq, Repr, Inhabited

namespace Config

/-- Where the sources are, for documentation at `docsRoot`. -/
def lookupRoot (config : Config) (docsRoot : String) : String :=
  Path.join docsRoot config.lookupPath

/-- Reads patterns; the first one that is faulty is described by `describe`. -/
def readPatterns (describe : String → Glob.Fault → Failure) (patterns : List String) :
    Except Failure (List Glob) :=
  patterns.mapM fun pattern =>
    match Glob.read pattern with
    | .ok glob => .ok glob
    | .error fault => .error (describe pattern fault)

/-- The patterns of source files to leave out. -/
def exclusions (config : Config) : Except Failure (List Glob) :=
  readPatterns (fun pattern fault =>
    .config "excluded_paths"
      ("invalid pattern " ++ Text.quote pattern ++ ": " ++ fault.message pattern))
    config.excludedPaths

/-- Refuses a configuration from a file whose patterns are faulty. -/
def validate (config : Config) (path : String) : Except Failure Config := do
  let _ ← readPatterns (fun pattern fault =>
    .config path
      ("invalid excluded_paths pattern " ++ Text.quote pattern ++ ": " ++ fault.message pattern))
    config.excludedPaths
  return config

end Config

end ContractDocs
