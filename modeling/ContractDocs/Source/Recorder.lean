/-
The recorder of one file: at most one contract-like scope is open at a
time, and the members recorded while it is open belong to it. A second
scope inside an open one is a nesting violation, and leaves the recorder as
it was: entering is work in steps, and the check is the first of them.
-/
import ContractDocs.Diagnostic
import ContractDocs.Record

namespace ContractDocs

/-- What one file contributes to an index. -/
structure Definitions where
  records : List Record := []
  diagnostics : List Diagnostic := []
deriving DecidableEq, Repr, Inhabited

/-- The state of recording one file. -/
structure Recorder where
  file : String
  /-- The name of the open contract, library or interface. -/
  scope : Option String := none
  output : Definitions := {}
deriving DecidableEq, Repr, Inhabited

namespace Recorder

/-- Refuses a scope named `inner` while another one is open. -/
def checkNotNested (recorder : Recorder) (line : Nat) (inner : String) : Except Nesting Unit :=
  match recorder.scope with
  | some outer => .error ⟨recorder.file, line, inner, outer⟩
  | none => .ok ()

/-- Adds a record at the end. -/
def push (recorder : Recorder) (record : Record) : Recorder :=
  { recorder with output.records := recorder.output.records ++ [record] }

/-- Adds a warning at a line of the file. -/
def warn (recorder : Recorder) (line : Nat) (message : String) : Recorder :=
  { recorder with
    output.diagnostics :=
      recorder.output.diagnostics ++ [Diagnostic.warningAt recorder.file line message] }

/-- Work on a recorder. A refusal ends the work, and what was changed until then stays
changed. -/
abbrev Action := ExceptT Nesting (StateM Recorder)

/-- Records a contract-like declaration, and then opens its scope. -/
def entering (record : Record) : Action Unit := do
  let name := record.name.getD ""
  let recorder ← get
  recorder.checkNotNested record.line name
  modify (·.push record)
  modify ({ · with scope := some name })

/-- The recorder after a contract-like declaration was entered. -/
def enter (recorder : Recorder) (record : Record) : Except Nesting Recorder :=
  match (entering record).run.run recorder with
  | (.ok _, next) => .ok next
  | (.error violation, _) => .error violation

/-- Either nothing else is open, or nothing is entered. -/
theorem enter_eq (recorder : Recorder) (record : Record) :
    recorder.enter record
      = (recorder.checkNotNested record.line (record.name.getD "")).map fun _ =>
        { recorder.push record with scope := some (record.name.getD "") } := by
  obtain ⟨file, scope, output⟩ := recorder
  cases scope with
  | none => rfl
  | some outer => rfl

/-- A refusal comes before the first change. -/
theorem run_entering (recorder : Recorder) (record : Record) :
    (entering record).run.run recorder
      = match recorder.enter record with
        | .ok next => (.ok (), next)
        | .error violation => (.error violation, recorder) := by
  obtain ⟨file, scope, output⟩ := recorder
  cases scope with
  | none => rfl
  | some outer => rfl

/-- Closes the open scope, if there is one. -/
def exit (recorder : Recorder) : Recorder :=
  { recorder with scope := none }

/-- Records a member of the open scope. Outside any scope there is nothing to document it
under, and a warning takes its place. -/
def member (recorder : Recorder) (record : Record) : Recorder :=
  match recorder.scope with
  | some name => recorder.push { record with contract := some name }
  | none =>
    recorder.warn record.line
      (record.kind.label ++ " `" ++ record.signature
        ++ "` is declared outside a contract and is not documented")

end Recorder

end ContractDocs
