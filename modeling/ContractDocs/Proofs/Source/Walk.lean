/-
What the walk of a file records, spot by spot.

The walk carries one open scope, set on the way into a contract-like
declaration and cleared on the way out. That field is the scopes around the
node at hand (`scopesAround`): none, or the one contract-like declaration
that contains it. With this as the invariant a walk is what its spots amount
to, in pre-order (`visit_eq_outcome`): the first violation among them if
there is one (`violation?`), and otherwise the outputs of all of them
(`output?`).

# The step and the run

A node is met in one of four ways: it violates nesting, it declares nothing,
it opens a scope, or it is a leaf. Each has its equation (`visit_violation`,
`visit_plain`, `visit_scope`, `visit_leaf`). The run is the induction over
the tree, a node and its list of children by turns.

What follows for whole files is in `Nesting` and `Outputs`.
-/
import ContractDocs.Proofs.Accepted
import ContractDocs.Proofs.Source.Reached

namespace ContractDocs

-- ============================================================= outputs

/-- What a declaration contributes to the definitions of its file. -/
inductive Output where
  | record (record : Record)
  | warning (diagnostic : Diagnostic)

namespace Output

def record? : Output → Option Record
  | record r => some r
  | warning _ => none

def warning? : Output → Option Diagnostic
  | record _ => none
  | warning d => some d

end Output

namespace Recorder

/-- Adds outputs at the end. -/
def add (recorder : Recorder) (outputs : List Output) : Recorder :=
  { recorder with
    output.records := recorder.output.records ++ outputs.filterMap Output.record?
    output.diagnostics :=
      recorder.output.diagnostics ++ outputs.filterMap Output.warning? }

theorem add_nil (recorder : Recorder) : recorder.add [] = recorder := by
  simp [add]

theorem add_append (recorder : Recorder) (xs ys : List Output) :
    recorder.add (xs ++ ys) = (recorder.add xs).add ys := by
  simp [add]

theorem push_eq_add (recorder : Recorder) (record : Record) :
    recorder.push record = recorder.add [.record record] := by
  simp [push, add, Output.record?, Output.warning?]

theorem warn_eq_add (recorder : Recorder) (line : Nat) (message : String) :
    recorder.warn line message
      = recorder.add [.warning (.warningAt recorder.file line message)] := by
  simp [warn, add, Output.record?, Output.warning?]

theorem member_eq_add (recorder : Recorder) (record : Record) :
    recorder.member record = recorder.add [match recorder.scope with
      | some outer => .record { record with contract := some outer }
      | none =>
        .warning (.warningAt recorder.file record.line
          (record.kind.label ++ " `" ++ record.signature
            ++ "` is declared outside a contract and is not documented"))] := by
  unfold member
  cases recorder.scope with
  | none => exact warn_eq_add ..
  | some outer => exact push_eq_add ..

end Recorder

namespace Source

variable (source : Source)

/-- The names of the scopes around a spot, nearest first. -/
def scopesAround (spot : Spot) : List String :=
  spot.above.filterMap source.scopeName?

/-- The name of a scope that a node would open: a contract-like declaration,
or text that begins like one where the grammar has no rule for it. -/
def inner? (node : Node) : Option String :=
  if node.isError || node.declares? == some .stateVar then
    scopeHeaderName? (source.text node)
  else source.scopeName? node

/-- The nesting violation at a spot. -/
def violation? (spot : Spot) : Option Nesting :=
  (source.scopesAround spot).head?.bind fun outer =>
    (source.inner? spot.node).map fun inner =>
      ⟨source.path, spot.node.line, inner, outer⟩

/-- What the declaration at a spot contributes. -/
def output? (spot : Spot) : Option Output :=
  spot.node.declares?.map fun kind =>
    match source.record? spot.before spot.node kind with
    | none =>
      .warning (.warningAt source.path spot.node.line
        ("could not read " ++ kind.label ++ " declaration"))
    | some record =>
      if kind.isContractLike then .record record
      else
        match (source.scopesAround spot).head? with
        | some outer => .record { record with contract := some outer }
        | none =>
          .warning (.warningAt source.path spot.node.line
            (kind.label ++ " `" ++ record.signature
              ++ "` is declared outside a contract and is not documented"))

/-- What a walk over some spots amounts to. -/
def outcome (recorder : Recorder) (spots : List Spot) :
    Except Nesting Recorder :=
  match spots.findSome? source.violation? with
  | some nesting => .error nesting
  | none => .ok (recorder.add (spots.filterMap source.output?))

variable {source}

theorem outcome_append (recorder : Recorder) (xs ys : List Spot) :
    source.outcome recorder (xs ++ ys)
      = source.outcome recorder xs >>= fun next => source.outcome next ys := by
  unfold outcome
  rw [List.findSome?_append]
  cases xs.findSome? source.violation? with
  | some nesting => rfl
  | none =>
      rw [Option.none_or, List.filterMap_append, Recorder.add_append]
      rfl

-- ======================================================== one declaration

theorem declares?_of_isError {node : Node} (h : node.isError = true) :
    node.declares? = none := by
  have hkind : node.kind = "ERROR" := by simpa [Node.isError] using h
  rw [Node.declares?, hkind]
  decide

theorem parts_of_record? {before : List Node} {node : Node} {kind : Kind}
    {record : Record} (h : source.record? before node kind = some record) :
    source.signature? node kind = some record.parts ∧ record.kind = kind
      ∧ record.line = node.line ∧ record.contract = none := by
  obtain ⟨parts, hparts, rfl⟩ := Option.map_eq_some_iff.1 h
  exact ⟨hparts, rfl, rfl, rfl⟩

/-- Only callables lack a name. -/
theorem exists_name_of_isContractLike {node : Node} {kind : Kind}
    {parts : Signature} (hkind : kind.isContractLike = true)
    (h : source.signature? node kind = some parts) :
    ∃ name, parts.name = some name := by
  cases kind with
  | contract | library | interface =>
      obtain ⟨header, -, rfl⟩ := Option.map_eq_some_iff.1 h
      exact ⟨header.name, rfl⟩
  | stateVar | constructor | function | modifier | event | struct | enum =>
      cases hkind

/-- A scope is opened by a contract-like declaration that can be read. -/
theorem scopeName?_eq_some_iff (before : List Node) {node : Node}
    {name : String} :
    source.scopeName? node = some name
      ↔ ∃ kind record, node.declares? = some kind ∧ kind.isContractLike = true
        ∧ source.record? before node kind = some record
        ∧ record.name = some name := by
  unfold scopeName?
  constructor
  · intro h
    obtain ⟨kind, hkind, h⟩ := Option.bind_eq_some_iff.1 h
    obtain ⟨hdeclares, hlike⟩ := Option.filter_eq_some_iff.1 hkind
    obtain ⟨parts, hparts, rfl⟩ := Option.map_eq_some_iff.1 h
    obtain ⟨name, hname⟩ := exists_name_of_isContractLike hlike hparts
    refine ⟨kind, _, hdeclares, hlike, by rw [record?, hparts]; rfl, ?_⟩
    show parts.name = _
    rw [hname]
    rfl
  · rintro ⟨kind, record, hdeclares, hlike, hrecord, hname⟩
    obtain ⟨hparts, -⟩ := parts_of_record? hrecord
    have hname : record.parts.name = some name := hname
    rw [hdeclares, Option.filter_some, if_pos hlike]
    show (source.signature? node kind).map _ = _
    rw [hparts, Option.map_some, hname]
    rfl

/-- A contract-like declaration is not text that error recovery left. -/
theorem inner?_of_scopeName? {node : Node} {name : String}
    (h : source.scopeName? node = some name) :
    source.inner? node = some name := by
  obtain ⟨kind, record, hdeclares, hlike, -, -⟩ := (scopeName?_eq_some_iff []).1 h
  have hrecovered : (node.isError || node.declares? == some .stateVar) = false := by
    rw [hdeclares, Bool.or_eq_false_iff]
    constructor
    · cases herror : node.isError with
      | false => rfl
      | true =>
          rw [declares?_of_isError herror] at hdeclares
          cases hdeclares
    · cases kind with
      | contract | library | interface => rfl
      | stateVar | constructor | function | modifier | event | struct | enum =>
          cases hlike
  rw [inner?, hrecovered]
  exact h

theorem violation?_eq_some_iff {spot : Spot} {nesting : Nesting} :
    source.violation? spot = some nesting
      ↔ ∃ inner outer, (source.scopesAround spot).head? = some outer
        ∧ source.inner? spot.node = some inner
        ∧ nesting = ⟨source.path, spot.node.line, inner, outer⟩ := by
  rw [violation?, Option.bind_eq_some_iff]
  constructor
  · rintro ⟨outer, houter, h⟩
    obtain ⟨inner, hinner, rfl⟩ := Option.map_eq_some_iff.1 h
    exact ⟨inner, outer, houter, hinner, rfl⟩
  · rintro ⟨inner, outer, houter, hinner, rfl⟩
    exact ⟨outer, houter, by rw [hinner, Option.map_some]⟩

/-- Where nothing is a violation, a scope is opened outside any other. -/
theorem scopesAround_eq_nil {spot : Spot} {name : String}
    (hv : source.violation? spot = none)
    (hname : source.scopeName? spot.node = some name) :
    source.scopesAround spot = [] := by
  cases hscopes : source.scopesAround spot with
  | nil => rfl
  | cons outer others =>
      have hviolation := violation?_eq_some_iff.2
        ⟨name, outer, by rw [hscopes]; rfl, inner?_of_scopeName? hname, rfl⟩
      rw [hv] at hviolation
      cases hviolation

-- ============================================================ the step

/-- The recorder of a walk that stands below the nodes `above`. -/
structure Follows (source : Source) (recorder : Recorder) (above : List Node) :
    Prop where
  file : recorder.file = source.path
  scope : recorder.scope.toList = above.filterMap source.scopeName?

variable {recorder : Recorder} {path : List Nat} {above before : List Node}
  {node : Node}

theorem Follows.head? (h : Follows source recorder above) :
    (source.scopesAround ⟨path, above, before, node⟩).head? = recorder.scope := by
  rw [scopesAround, ← h.scope]
  cases recorder.scope with
  | none => rfl
  | some name => rfl

/-- An open scope refuses what would open another one. -/
theorem Follows.checkNotNested (h : Follows source recorder above)
    {inner : String} (hinner : source.inner? node = some inner) :
    recorder.checkNotNested node.line inner
      = match source.violation? ⟨path, above, before, node⟩ with
        | some nesting => .error nesting
        | none => .ok () := by
  rw [Recorder.checkNotNested, violation?, h.head?, hinner]
  cases recorder.scope with
  | none => rfl
  | some outer =>
      rw [h.file]
      rfl

theorem Follows.checkRecovered (h : Follows source recorder above) :
    source.checkRecovered recorder node
      = if node.isError || node.declares? == some .stateVar then
          match source.violation? ⟨path, above, before, node⟩ with
          | some nesting => .error nesting
          | none => .ok ()
        else .ok () := by
  unfold Source.checkRecovered
  cases hrecovered : node.isError || node.declares? == some .stateVar with
  | false =>
      rw [Bool.and_false, if_neg Bool.false_ne_true, if_neg Bool.false_ne_true]
  | true =>
      rw [Bool.and_true]
      have hinner : source.inner? node = scopeHeaderName? (source.text node) := by
        rw [inner?, if_pos hrecovered]
      cases hname : scopeHeaderName? (source.text node) with
      | none =>
          rw [violation?, hinner, hname]
          cases (source.scopesAround ⟨path, above, before, node⟩).head? with
          | none => simp
          | some outer => simp
      | some inner =>
          rw [hname] at hinner
          rw [← h.checkNotNested hinner]
          cases hscope : recorder.scope with
          | none => simp [Recorder.checkNotNested, hscope]
          | some outer => simp

theorem visit_eq (before : List Node) (recorder : Recorder) (node : Node) :
    source.visit before recorder node = (do
      source.checkRecovered recorder node
      match node.declares? with
      | none => source.visitAll [] recorder node.children
      | some kind =>
        match source.record? before node kind with
        | none =>
          return recorder.warn node.line
            ("could not read " ++ kind.label ++ " declaration")
        | some record =>
          if kind.isContractLike then
            let opened ← recorder.enter record
            let inside ← source.visitAll [] opened node.children
            return inside.exit
          else return recorder.member record) := by
  cases node
  unfold visit
  rfl

/-- The walk stops at a violation. -/
theorem visit_violation (h : Follows source recorder above) {nesting : Nesting}
    (hv : source.violation? ⟨path, above, before, node⟩ = some nesting) :
    source.visit before recorder node = .error nesting := by
  rw [visit_eq, h.checkRecovered]
  cases hrecovered : node.isError || node.declares? == some .stateVar with
  | true =>
      rw [if_pos rfl, hv]
      rfl
  | false =>
      -- then it is a contract-like declaration
      obtain ⟨inner, -, -, hinner, -⟩ := violation?_eq_some_iff.1 hv
      have hcheck : recorder.checkNotNested node.line inner = .error nesting := by
        rw [h.checkNotNested hinner, hv]
      rw [inner?, hrecovered] at hinner
      obtain ⟨kind, record, hdeclares, hlike, hrecord, hname⟩ :=
        (scopeName?_eq_some_iff before).1 hinner
      obtain ⟨-, -, hline, -⟩ := parts_of_record? hrecord
      rw [hdeclares]
      simp only [hrecord, hlike, if_true, Recorder.enter_eq, hname, hline,
        Option.getD_some, hcheck]
      rfl

theorem Follows.checkRecovered_eq_ok (h : Follows source recorder above)
    (hv : source.violation? ⟨path, above, before, node⟩ = none) :
    source.checkRecovered recorder node = .ok () := by
  rw [h.checkRecovered, hv]
  split
  · rfl
  · rfl

/-- Below a node that declares nothing the walk goes on as it was. -/
theorem visit_plain (h : Follows source recorder above)
    (hv : source.violation? ⟨path, above, before, node⟩ = none)
    (hdeclares : node.declares? = none) :
    source.visit before recorder node
      = source.visitAll [] recorder node.children := by
  rw [visit_eq, h.checkRecovered_eq_ok hv, hdeclares]
  rfl

/-- A contract-like declaration outside any scope is recorded, and its scope
is open until the walk comes out again. -/
theorem visit_scope (h : Follows source recorder above) {name : String}
    (hv : source.violation? ⟨path, above, before, node⟩ = none)
    (hname : source.scopeName? node = some name) :
    recorder.scope = none
      ∧ source.visit before recorder node
        = source.visitAll []
            { recorder.add (source.output? ⟨path, above, before, node⟩).toList with
              scope := some name }
            node.children
          >>= fun inside => .ok inside.exit := by
  obtain ⟨kind, record, hdeclares, hlike, hrecord, hrname⟩ :=
    (scopeName?_eq_some_iff before).1 hname
  have hnone : recorder.scope = none := by
    have hhead : (source.scopesAround ⟨path, above, before, node⟩).head?
        = recorder.scope := h.head?
    rw [← hhead, scopesAround_eq_nil hv hname]
    rfl
  refine ⟨hnone, ?_⟩
  have houtput : source.output? ⟨path, above, before, node⟩
      = some (.record record) := by
    simp only [output?, hdeclares, Option.map_some, hrecord, hlike, if_true]
  have henter : recorder.enter record
      = .ok { recorder.add [.record record] with scope := some name } := by
    rw [Recorder.enter_eq, Recorder.checkNotNested, hnone, hrname,
      Recorder.push_eq_add]
    rfl
  rw [visit_eq, h.checkRecovered_eq_ok hv, hdeclares, houtput, Option.toList_some]
  simp only [hrecord, hlike, if_true, henter]
  rfl

/-- Any other declaration is a leaf, and leaves its output. -/
theorem visit_leaf (h : Follows source recorder above)
    (hv : source.violation? ⟨path, above, before, node⟩ = none)
    (hpass : source.passes node = false) :
    source.visit before recorder node
      = .ok (recorder.add (source.output? ⟨path, above, before, node⟩).toList) := by
  rw [visit_eq, h.checkRecovered_eq_ok hv]
  rw [passes, Bool.or_eq_false_iff] at hpass
  cases hdeclares : node.declares? with
  | none =>
      rw [hdeclares] at hpass
      cases hpass.1
  | some kind =>
      cases hrecord : source.record? before node kind with
      | none =>
          simp only [output?, hdeclares, Option.map_some, hrecord,
            Option.toList_some, ← h.file, ← Recorder.warn_eq_add]
          rfl
      | some record =>
          have hlike : kind.isContractLike = false := by
            cases hlike : kind.isContractLike with
            | false => rfl
            | true =>
                obtain ⟨hparts, -⟩ := parts_of_record? hrecord
                obtain ⟨name, hname⟩ := exists_name_of_isContractLike hlike hparts
                have hopens := (scopeName?_eq_some_iff before).2
                  ⟨kind, record, hdeclares, hlike, hrecord, hname⟩
                rw [hopens] at hpass
                cases hpass.2
          obtain ⟨-, rfl, hline, -⟩ := parts_of_record? hrecord
          simp only [output?, hdeclares, Option.map_some, hrecord, hlike,
            Option.toList_some, h.head?, ← h.file, ← hline]
          exact congrArg Except.ok (Recorder.member_eq_add recorder record)

-- ============================================================= the run

theorem outcome_nil (recorder : Recorder) :
    source.outcome recorder [] = .ok recorder :=
  congrArg Except.ok recorder.add_nil

theorem outcome_cons_of_none (recorder : Recorder) {spot : Spot}
    (hv : source.violation? spot = none) (spots : List Spot) :
    source.outcome recorder (spot :: spots)
      = source.outcome (recorder.add (source.output? spot).toList) spots := by
  have hone : source.outcome recorder [spot]
      = .ok (recorder.add (source.output? spot).toList) := by
    rw [outcome, List.findSome?_cons, hv]
    cases houtput : source.output? spot with
    | none => simp [houtput]
    | some output => simp [houtput]
  rw [← List.singleton_append, outcome_append, hone]
  rfl

/-- Recording leaves the place of the walk as it was. -/
theorem Follows.outcome (h : Follows source recorder above) {spots : List Spot}
    {next : Recorder} (hnext : source.outcome recorder spots = .ok next) :
    Follows source next above := by
  unfold Source.outcome at hnext
  split at hnext
  · cases hnext
  · cases hnext
    exact ⟨h.file, h.scope⟩

/-- A scope that is opened and closed again leaves what was recorded in
between. -/
theorem outcome_exit (recorder : Recorder) (hnone : recorder.scope = none)
    (name : String) (spots : List Spot) :
    (source.outcome { recorder with scope := some name } spots
        >>= fun inside => .ok inside.exit)
      = source.outcome recorder spots := by
  unfold outcome
  cases spots.findSome? source.violation? with
  | some nesting => rfl
  | none =>
      show Except.ok _ = Except.ok _
      rw [Recorder.exit, ← hnone]
      rfl

mutual

/-- The walk from a node is what the spots below it amount to. -/
theorem visit_eq_outcome :
    ∀ (node : Node) {path : List Nat} {above before : List Node}
      {recorder : Recorder}, Follows source recorder above →
      source.visit before recorder node
        = source.outcome recorder (source.spotsFrom path above before node)
  | ⟨kind, named, field, start, stop, row, children⟩, path, above, before,
      recorder, h => by
      rw [spotsFrom]
      have hall : ∀ {recorder : Recorder},
          Follows source recorder
            (⟨kind, named, field, start, stop, row, children⟩ :: above) →
          source.visitAll [] recorder children
            = source.outcome recorder (source.spotsAmong path _ [] children) :=
        visitAll_eq_outcome children
      generalize hnode : Node.mk kind named field start stop row children = node
        at hall ⊢
      have hchildren : node.children = children := by rw [← hnode]
      cases hv : source.violation? ⟨path, above, before, node⟩ with
      | some nesting =>
          rw [visit_violation h hv, outcome, List.findSome?_cons, hv]
      | none =>
          rw [outcome_cons_of_none recorder hv]
          cases hname : source.scopeName? node with
          | some name =>
              obtain ⟨hnone, hvisit⟩ := visit_scope h hv hname
              have hpass : source.passes node = true := by
                rw [passes, hname, Option.isSome_some, Bool.or_true]
              have hfollows : Follows source
                  { recorder.add (source.output? ⟨path, above, before, node⟩).toList
                    with scope := some name } (node :: above) := by
                refine ⟨h.file, ?_⟩
                rw [List.filterMap_cons_some hname, ← h.scope, hnone]
                rfl
              rw [hvisit, hchildren, hall hfollows, if_pos hpass]
              exact outcome_exit (recorder.add _) hnone name _
          | none =>
              cases hdeclares : node.declares? with
              | none =>
                  have hpass : source.passes node = true := by
                    rw [passes, hdeclares]
                    rfl
                  have houtput : source.output? ⟨path, above, before, node⟩ = none := by
                    rw [output?, hdeclares, Option.map_none]
                  have hfollows : Follows source recorder (node :: above) := by
                    refine ⟨h.file, ?_⟩
                    rw [List.filterMap_cons_none hname, ← h.scope]
                  rw [visit_plain h hv hdeclares, hchildren, hall hfollows,
                    if_pos hpass, houtput, Option.toList_none, Recorder.add_nil]
              | some kind =>
                  have hpass : source.passes node = false := by
                    rw [passes, hdeclares, hname]
                    rfl
                  rw [visit_leaf h hv hpass, hpass]
                  exact (outcome_nil _).symm

/-- The walk over siblings is what the spots below them amount to. -/
theorem visitAll_eq_outcome :
    ∀ (nodes : List Node) {path : List Nat} {above before : List Node}
      {recorder : Recorder}, Follows source recorder above →
      source.visitAll before recorder nodes
        = source.outcome recorder (source.spotsAmong path above before nodes)
  | [], path, above, before, recorder, h => by
      rw [visitAll, spotsAmong, outcome_nil]
      rfl
  | node :: rest, path, above, before, recorder, h => by
      rw [visitAll, spotsAmong_cons, outcome_append]
      by_cases hnamed : node.named = true
      · rw [if_pos hnamed, if_pos hnamed, visit_eq_outcome node h]
        cases hnext : source.outcome recorder
            (source.spotsFrom (path ++ [before.length]) above before node) with
        | error nesting => rfl
        | ok next => exact visitAll_eq_outcome rest (h.outcome hnext)
      · rw [if_neg hnamed, if_neg hnamed, outcome_nil]
        exact visitAll_eq_outcome rest h

end

/-- The definitions of a file are what its reached spots amount to. -/
theorem definitions_eq (source : Source) :
    source.definitions
      = match source.spots.findSome? source.violation? with
        | some nesting => .error nesting
        | none =>
          .ok ⟨(source.spots.filterMap source.output?).filterMap Output.record?,
            (source.spots.filterMap source.output?).filterMap Output.warning?⟩ := by
  have hfollows : Follows source { file := source.path } [] := ⟨rfl, rfl⟩
  have hvisit : source.visit [] { file := source.path } source.root
      = source.outcome { file := source.path } source.spots :=
    visit_eq_outcome source.root hfollows
  rw [definitions, hvisit, outcome]
  cases source.spots.findSome? source.violation? with
  | some nesting => rfl
  | none => rfl

theorem definitions_eq_error_iff {nesting : Nesting} :
    source.definitions = .error nesting
      ↔ source.spots.findSome? source.violation? = some nesting := by
  rw [definitions_eq]
  cases source.spots.findSome? source.violation? with
  | none =>
      constructor
      · intro h
        cases h
      · intro h
        cases h
  | some found =>
      constructor
      · intro h
        cases h
        rfl
      · intro h
        cases h
        rfl

theorem definitions_eq_ok_iff {defs : Definitions} :
    source.definitions = .ok defs
      ↔ (∀ spot ∈ source.spots, source.violation? spot = none)
        ∧ defs
          = ⟨(source.spots.filterMap source.output?).filterMap Output.record?,
            (source.spots.filterMap source.output?).filterMap Output.warning?⟩ := by
  rw [definitions_eq, ← List.findSome?_eq_none_iff]
  cases source.spots.findSome? source.violation? with
  | none =>
      constructor
      · intro h
        cases h
        exact ⟨rfl, rfl⟩
      · rintro ⟨-, rfl⟩
        rfl
  | some nesting =>
      constructor
      · intro h
        cases h
      · rintro ⟨h, -⟩
        cases h

end Source

end ContractDocs
