/-
What can go wrong, as causes. `Failure.message` is the only place that puts
a cause into words; a failure that spoils a single file only is told apart
from one that stops a build.
-/
import ContractDocs.Kind
import ContractDocs.Text.Quoted

namespace ContractDocs

/-- A contract-like declaration inside an open one. -/
structure Nesting where
  file : String
  line : Nat
  inner : String
  outer : String
deriving DecidableEq, Repr

/-- Why a signature, a configuration or a build is refused. -/
inductive Failure where
  | malformed (kind : Kind) (header reason : String)
  | nesting (violation : Nesting)
  | inaccessible (path cause : String)
  | grammar (cause : String)
  | config (path cause : String)
  /-- The text of a configuration file is not a document of the expected form. -/
  | configDocument (path : String)
  | io (path cause : String)
deriving DecidableEq, Repr

namespace Failure

/-- The failure in words. -/
def message : Failure → String
  | malformed kind header reason =>
    "malformed " ++ kind.name ++ " signature " ++ Text.quote header ++ ": " ++ reason
  | nesting v =>
    v.file ++ ":" ++ toString v.line ++ ": cannot enter " ++ v.inner ++ " while already in "
      ++ v.outer
  | inaccessible path cause => "lookup path " ++ path ++ " is not accessible: " ++ cause
  | grammar cause => "failed to load Solidity grammar: " ++ cause
  | config path cause => "invalid configuration " ++ path ++ ": " ++ cause
  | configDocument path =>
    "invalid configuration " ++ path ++ ": the document does not describe a configuration"
  | io path cause => "IO error on " ++ path ++ ": " ++ cause

/-- Whether only the file at hand is lost. -/
def isFileScoped : Failure → Bool
  | nesting _ | io _ _ => true
  | _ => false

end Failure

end ContractDocs
