/-
Diagnostics: problems that do not stop a build, in the order they were
found.
-/
import ContractDocs.Failure

namespace ContractDocs

/-- How grave a diagnostic is. -/
inductive Severity where
  | error
  | warning
  | info
deriving DecidableEq, Repr, Inhabited

namespace Severity

/-- The word for a severity. -/
def name : Severity → String
  | error => "error"
  | warning => "warning"
  | info => "info"

end Severity

/-- A file, and a line in it counted from one; line zero stands for the whole file. -/
structure Place where
  file : String
  line : Nat
deriving DecidableEq, Repr, Inhabited

/-- A problem that does not stop a build. -/
structure Diagnostic where
  severity : Severity
  message : String
  place : Option Place := none
deriving DecidableEq, Repr, Inhabited

namespace Diagnostic

/-- A warning without a place. -/
def warning (message : String) : Diagnostic :=
  { severity := .warning, message }

/-- A warning at a place. -/
def warningAt (file : String) (line : Nat) (message : String) : Diagnostic :=
  { severity := .warning, message, place := some ⟨file, line⟩ }

/-- The error for a file that was left out of the index. -/
def ofFileFailure (file : String) (failure : Failure) : Diagnostic :=
  let line := match failure with
    | .nesting violation => violation.line
    | _ => 0
  { severity := .error
    message := file ++ " skipped: " ++ failure.message
    place := some ⟨file, line⟩ }

/-- `file:line`, or the file alone when the line is unknown. -/
def location (d : Diagnostic) : Option String :=
  d.place.map fun place =>
    if 0 < place.line then place.file ++ ":" ++ toString place.line else place.file

/-- How many diagnostics have this severity. -/
def count (severity : Severity) (ds : List Diagnostic) : Nat :=
  ds.countP (·.severity = severity)

/-- Whether some diagnostic is an error. -/
def hasErrors (ds : List Diagnostic) : Bool :=
  0 < count .error ds

end Diagnostic

end ContractDocs
