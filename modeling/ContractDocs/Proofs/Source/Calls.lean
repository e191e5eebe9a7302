/-
The recorder of a file, called in any order.

The walk of a tree calls the recorder in an order of its own: what is entered
is left again, and a refusal is the last call. Here the calls may come as they
like: exits without an enter, members after an exit, anything at all after a
refusal.

# The step

A call is carried out on a recorder that changes as it goes, so that a refusal
could come too late. It does not (`run_entering`): a call is refused before it
has changed anything, and otherwise adds its outputs and settles the scope
(`Call.perform_eq`). This is all that is used of a call.

# The run

The scope after a run is that of an enter that was accepted, with no exit
behind it (`scope_eq_some_iff`, by induction on the last call). With it, what
each call does is said in terms of the calls before it
(`one_scope_in_any_order`).
-/
import ContractDocs.Proofs.Source.Walk
import Mathlib.Data.List.Induction

namespace ContractDocs.Recorder

-- ================================================================= calls

/-- A call on a recorder. -/
inductive Call where
  | enter (record : Record)
  | exit
  | member (record : Record)
  | check (line : Nat) (inner : String)
  | warn (line : Nat) (message : String)
deriving DecidableEq, Repr

namespace Call

/-- What a call does, one change after the other. -/
def action : Call → Action Unit
  | enter record => entering record
  | exit => modify Recorder.exit
  | member record => modify (·.member record)
  | check line inner => do
    let recorder ← get
    recorder.checkNotNested line inner
  | warn line message => modify (·.warn line message)

/-- The answer to a call, and the recorder after it. -/
def perform (call : Call) (recorder : Recorder) :
    Except Nesting Unit × Recorder :=
  call.action.run.run recorder

-- ============================================================== the step

/-- Why a call is refused, if it is. -/
def refusal? (recorder : Recorder) : Call → Option Nesting
  | enter record =>
    recorder.scope.map (⟨recorder.file, record.line, record.name.getD "", ·⟩)
  | check line inner => recorder.scope.map (⟨recorder.file, line, inner, ·⟩)
  | _ => none

/-- What a call adds to the output. -/
def outputs (recorder : Recorder) : Call → List Output
  | enter record => if recorder.scope.isSome then [] else [.record record]
  | member record =>
    match recorder.scope with
    | some outer => [.record { record with contract := some outer }]
    | none =>
      [.warning (.warningAt recorder.file record.line
        (record.kind.label ++ " `" ++ record.signature
          ++ "` is declared outside a contract and is not documented"))]
  | warn line message => [.warning (.warningAt recorder.file line message)]
  | exit | check _ _ => []

/-- The scope after a call. -/
def scopeAfter (scope : Option String) : Call → Option String
  | enter record => some (scope.getD (record.name.getD ""))
  | exit => none
  | _ => scope

/-- All that a call does. -/
theorem perform_eq (call : Call) (recorder : Recorder) :
    call.perform recorder
      = ((call.refusal? recorder).elim (.ok ()) .error,
        { recorder.add (call.outputs recorder) with
          scope := call.scopeAfter recorder.scope }) := by
  cases call with
  | enter record =>
      show (entering record).run.run recorder = _
      rw [run_entering, enter_eq, push_eq_add]
      obtain ⟨file, scope, output⟩ := recorder
      cases scope with
      | none => rfl
      | some outer =>
          show _ = (_, Recorder.add ⟨file, some outer, output⟩ [])
          rw [add_nil]
          rfl
  | exit =>
      show (_, recorder.exit) = (_, { recorder.add [] with scope := none })
      rw [add_nil]
      rfl
  | member record =>
      show (_, recorder.member record) = _
      rw [member_eq_add]
      obtain ⟨file, scope, output⟩ := recorder
      cases scope <;> rfl
  | check line inner =>
      obtain ⟨file, scope, output⟩ := recorder
      show _ = (_, Recorder.add ⟨file, scope, output⟩ [])
      rw [add_nil]
      cases scope <;> rfl
  | warn line message =>
      show (_, recorder.warn line message) = _
      rw [warn_eq_add]
      rfl

/-- A refusal leaves the recorder as it was. -/
theorem perform_of_refusal {call : Call} {recorder : Recorder} {v : Nesting}
    (h : call.refusal? recorder = some v) :
    call.perform recorder = (.error v, recorder) := by
  obtain ⟨file, scope, output⟩ := recorder
  cases scope with
  | none => cases call <;> cases h
  | some outer =>
      cases call with
      | enter record =>
          cases h
          rfl
      | check line inner =>
          cases h
          rfl
      | exit => cases h
      | member record => cases h
      | warn line message => cases h

/-- The calls that leave something in the output: the enters that were
accepted, the members and the warnings. -/
def counts : Call × Except Nesting Unit → Bool
  | (enter _, .ok _) | (member _, _) | (warn _ _, _) => true
  | _ => false

theorem length_outputs (call : Call) (recorder : Recorder) :
    (call.outputs recorder).length
      = if counts (call, (call.perform recorder).1) then 1 else 0 := by
  obtain ⟨file, scope, output⟩ := recorder
  cases call <;> cases scope <;> rfl

end Call

-- =============================================================== the run

/-- A recorder after calls. A refused call does not end the run. -/
def run (recorder : Recorder) (calls : List Call) : Recorder :=
  calls.foldl (fun recorder call => (call.perform recorder).2) recorder

/-- The recorder of a file after calls. -/
def after (file : String) (calls : List Call) : Recorder :=
  run { file } calls

/-- How a call is answered after others. -/
def answer (file : String) (calls : List Call) (call : Call) :
    Except Nesting Unit :=
  (call.perform (after file calls)).1

/-- The scope that calls leave open: an enter of this name was accepted, and
no exit came since. -/
def Open (file : String) (calls : List Call) (name : String) : Prop :=
  ∃ earlier record later, calls = earlier ++ .enter record :: later
    ∧ answer file earlier (.enter record) = .ok ()
    ∧ record.name.getD "" = name ∧ Call.exit ∉ later

variable {file : String}

theorem after_concat (calls : List Call) (call : Call) :
    after file (calls ++ [call]) = (call.perform (after file calls)).2 := by
  rw [after, run, List.foldl_concat]
  rfl

theorem file_after (calls : List Call) : (after file calls).file = file := by
  induction calls using List.reverseRecOn with
  | nil => rfl
  | append_singleton calls call ih =>
      rw [after_concat, Call.perform_eq]
      exact ih

theorem answer_eq_error_iff {calls : List Call} {call : Call} {v : Nesting} :
    answer file calls call = .error v
      ↔ call.refusal? (after file calls) = some v := by
  rw [answer, Call.perform_eq]
  cases call.refusal? (after file calls) <;> simp

theorem answer_enter_eq_ok_iff {calls : List Call} {record : Record} :
    answer file calls (.enter record) = .ok ()
      ↔ (after file calls).scope = none := by
  rw [answer, Call.perform_eq, Call.refusal?]
  cases (after file calls).scope <;> simp

theorem open_concat {calls : List Call} {call : Call} {name : String} :
    Open file (calls ++ [call]) name
      ↔ (call ≠ .exit ∧ Open file calls name)
        ∨ ∃ record, call = .enter record
          ∧ answer file calls (.enter record) = .ok ()
          ∧ record.name.getD "" = name := by
  constructor
  · rintro ⟨earlier, record, later, heq, hanswer, hname, hexit⟩
    rcases List.eq_nil_or_concat later with rfl | ⟨later, last, rfl⟩
    · obtain ⟨rfl, hcall⟩ := List.append_inj' heq rfl
      exact .inr ⟨record, List.singleton_inj.1 hcall, hanswer, hname⟩
    · rw [List.concat_eq_append, ← List.cons_append, ← List.append_assoc] at heq
      obtain ⟨rfl, hcall⟩ := List.append_inj' heq rfl
      obtain rfl := List.singleton_inj.1 hcall
      rw [List.concat_eq_append, List.mem_append, not_or,
        List.mem_singleton] at hexit
      exact .inl ⟨fun h => hexit.2 h.symm,
        earlier, record, later, rfl, hanswer, hname, hexit.1⟩
  · rintro (⟨hcall, earlier, record, later, rfl, hanswer, hname, hexit⟩
      | ⟨record, rfl, hanswer, hname⟩)
    · refine ⟨earlier, record, later ++ [call], by simp, hanswer, hname, ?_⟩
      rw [List.mem_append, not_or, List.mem_singleton]
      exact ⟨hexit, fun h => hcall h.symm⟩
    · exact ⟨calls, record, [], rfl, hanswer, hname, List.not_mem_nil⟩

/-- The scope of the recorder is the scope that the calls leave open. -/
theorem scope_eq_some_iff {calls : List Call} {name : String} :
    (after file calls).scope = some name ↔ Open file calls name := by
  induction calls using List.reverseRecOn with
  | nil =>
      refine iff_of_false nofun ?_
      rintro ⟨earlier, record, later, heq, -⟩
      simp at heq
  | append_singleton calls call ih =>
      rw [open_concat, ← ih, after_concat, Call.perform_eq]
      show call.scopeAfter (after file calls).scope = some name ↔ _
      cases call with
      | enter record =>
          simp only [answer_enter_eq_ok_iff, Call.scopeAfter]
          cases (after file calls).scope <;> simp
      | exit => simp [Call.scopeAfter]
      | member record => simp [Call.scopeAfter]
      | check line inner => simp [Call.scopeAfter]
      | warn line message => simp [Call.scopeAfter]

-- ============================================================= the output

/-- The calls of a run, each with its answer. -/
def answers (recorder : Recorder) :
    List Call → List (Call × Except Nesting Unit)
  | [] => []
  | call :: calls =>
    let done := call.perform recorder
    (call, done.1) :: answers done.2 calls

theorem answers_concat (recorder : Recorder) (calls : List Call) (call : Call) :
    answers recorder (calls ++ [call])
      = answers recorder calls ++ [(call, (call.perform (recorder.run calls)).1)] := by
  induction calls generalizing recorder with
  | nil => rfl
  | cons first calls ih =>
      rw [List.cons_append, answers, ih]
      rfl

theorem output_concat (calls : List Call) (call : Call) :
    (after file (calls ++ [call])).output
      = ((after file calls).add (call.outputs (after file calls))).output := by
  rw [after_concat, Call.perform_eq]

/-- Every output is a record or a warning. -/
theorem length_records_add_length_warnings (outputs : List Output) :
    (outputs.filterMap Output.record?).length
        + (outputs.filterMap Output.warning?).length = outputs.length := by
  induction outputs with
  | nil => rfl
  | cons output outputs ih =>
      cases output <;>
        simp only [List.filterMap_cons, Output.record?, Output.warning?,
          List.length_cons] <;>
        omega

theorem length_output (calls : List Call) :
    (after file calls).output.records.length
        + (after file calls).output.diagnostics.length
      = (answers { file } calls).countP Call.counts := by
  induction calls using List.reverseRecOn with
  | nil => rfl
  | append_singleton calls call ih =>
      have hadded := length_records_add_length_warnings
        (call.outputs (after file calls))
      rw [Call.length_outputs] at hadded
      rw [output_concat, answers_concat, List.countP_append,
        List.countP_singleton, ← ih, ← after, ← hadded, add]
      simp only [List.length_append]
      omega

/-- What has been recorded stays, in its place. -/
theorem output_prefix (earlier rest : List Call) :
    (after file earlier).output.records
        <+: (after file (earlier ++ rest)).output.records
      ∧ (after file earlier).output.diagnostics
        <+: (after file (earlier ++ rest)).output.diagnostics := by
  induction rest using List.reverseRecOn with
  | nil => simp
  | append_singleton rest call ih =>
      rw [← List.append_assoc, output_concat]
      exact ⟨ih.1.trans (List.prefix_append ..),
        ih.2.trans (List.prefix_append ..)⟩

-- ======================================================== any order of calls

/-- Which scope is open after calls, and what one more call does then. -/
structure OneScope (file : String) (calls : List Call) : Prop where
  scope : ∀ name, (after file calls).scope = some name ↔ Open file calls name
  enter_refused : ∀ record v, answer file calls (.enter record) = .error v
    ↔ ∃ outer, Open file calls outer
      ∧ v = ⟨file, record.line, record.name.getD "", outer⟩
  check_refused : ∀ line inner v, answer file calls (.check line inner) = .error v
    ↔ ∃ outer, Open file calls outer ∧ v = ⟨file, line, inner, outer⟩
  refused_unchanged : ∀ call v, answer file calls call = .error v →
    after file (calls ++ [call]) = after file calls
  grows : ∀ earlier, earlier <+: calls →
    (after file earlier).output.records <+: (after file calls).output.records
      ∧ (after file earlier).output.diagnostics
        <+: (after file calls).output.diagnostics
  counted : (after file calls).output.records.length
      + (after file calls).output.diagnostics.length
    = (answers { file } calls).countP Call.counts
  enter_records : ∀ record, answer file calls (.enter record) = .ok () →
    (after file (calls ++ [.enter record])).output
      = ⟨(after file calls).output.records ++ [record],
        (after file calls).output.diagnostics⟩
  member_records : ∀ record name, Open file calls name →
    (after file (calls ++ [.member record])).output
      = ⟨(after file calls).output.records
          ++ [{ record with contract := some name }],
        (after file calls).output.diagnostics⟩
  member_warns : ∀ record, (∀ name, ¬ Open file calls name) →
    (after file (calls ++ [.member record])).output
      = ⟨(after file calls).output.records,
        (after file calls).output.diagnostics
          ++ [.warningAt file record.line
            (record.kind.label ++ " `" ++ record.signature
              ++ "` is declared outside a contract and is not documented")]⟩

/-- A refusal names the scope that is open. -/
theorem map_scope_eq_some_iff {calls : List Call} {line : Nat} {inner : String}
    {v : Nesting} :
    (after file calls).scope.map
          (⟨(after file calls).file, line, inner, ·⟩ : String → Nesting) = some v
      ↔ ∃ outer, Open file calls outer ∧ v = ⟨file, line, inner, outer⟩ := by
  rw [Option.map_eq_some_iff, file_after]
  exact exists_congr fun outer => and_congr scope_eq_some_iff eq_comm

/-- Whatever the order of the calls, there is one scope or none, and it alone
decides what a call does. -/
theorem one_scope_in_any_order (file : String) (calls : List Call) :
    OneScope file calls where
  scope name := scope_eq_some_iff
  enter_refused record v := answer_eq_error_iff.trans map_scope_eq_some_iff
  check_refused line inner v := answer_eq_error_iff.trans map_scope_eq_some_iff
  refused_unchanged call v h := by
    rw [after_concat, Call.perform_of_refusal (answer_eq_error_iff.1 h)]
  grows := by
    rintro earlier ⟨rest, rfl⟩
    exact output_prefix earlier rest
  counted := length_output calls
  enter_records record h := by
    have hscope := answer_enter_eq_ok_iff.1 h
    rw [output_concat, Call.outputs, hscope]
    simp [add, Output.record?, Output.warning?]
  member_records record name h := by
    have hscope := scope_eq_some_iff.2 h
    rw [output_concat, Call.outputs, hscope]
    simp [add, Output.record?, Output.warning?]
  member_warns record h := by
    have hscope : (after file calls).scope = none :=
      Option.eq_none_iff_forall_ne_some.2 fun name hname =>
        h name (scope_eq_some_iff.1 hname)
    rw [output_concat, Call.outputs, hscope, file_after]
    simp [add, Output.record?, Output.warning?]

/-- A library inside a contract is refused, and the struct behind it still
belongs to the contract. -/
def refusedRun : List Call :=
  [.exit,
    .enter { kind := .contract, file := "a.sol", parts := .typeLike ⟨"A", []⟩, line := 1 },
    .enter { kind := .library, file := "a.sol", parts := .typeLike ⟨"B", []⟩, line := 2 },
    .member { kind := .struct, file := "a.sol", parts := .typeLike ⟨"S", []⟩, line := 3 }]

theorem refusedRun_scoped :
    Open "a.sol" refusedRun "A"
      ∧ answer "a.sol" refusedRun (.check 4 "C") = .error ⟨"a.sol", 4, "C", "A"⟩
      ∧ after "a.sol" (refusedRun ++ [.check 4 "C"]) = after "a.sol" refusedRun
      ∧ (after "a.sol" refusedRun).output.records.length
        + (after "a.sol" refusedRun).output.diagnostics.length = 2 := by
  have h := one_scope_in_any_order "a.sol" refusedRun
  have hopen : Open "a.sol" refusedRun "A" := (h.scope "A").1 rfl
  have hcheck := (h.check_refused 4 "C" _).2 ⟨"A", hopen, rfl⟩
  exact ⟨hopen, hcheck, h.refused_unchanged _ _ hcheck, h.counted⟩

end ContractDocs.Recorder
