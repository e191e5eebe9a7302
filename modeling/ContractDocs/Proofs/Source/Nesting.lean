/-
Nesting is detected exactly. A file is refused when some reached node inside
a contract-like declaration would open another scope (`Violates`), and only
then; the error is that of the first such node in pre-order.

The first violation has one scope around it, not several: of two scopes
around a node the inner one is a violation itself, and comes earlier
(`scopesAround_eq_nil_or_singleton`).
-/
import ContractDocs.Proofs.Source.Walk

namespace ContractDocs.Source

variable {source : Source}

/-- A node inside the scope `outer` that would open a scope `inner`: a
contract-like declaration whose header can be read, or recovered text that
begins like one. -/
inductive Violates (source : Source) (spot : Spot) (inner outer : String) :
    Prop where
  | declared {around : Node} {kind : Kind} {record : Record} :
      around ∈ spot.above → source.scopeName? around = some outer →
      spot.node.declares? = some kind → kind.isContractLike = true →
      source.record? spot.before spot.node kind = some record →
      record.name = some inner → Violates source spot inner outer
  | recovered {around : Node} :
      around ∈ spot.above → source.scopeName? around = some outer →
      spot.node.isError = true ∨ spot.node.declares? = some .stateVar →
      scopeHeaderName? (source.text spot.node) = some inner →
      Violates source spot inner outer

theorem mem_scopesAround_iff {spot : Spot} {outer : String} :
    outer ∈ source.scopesAround spot
      ↔ ∃ around ∈ spot.above, source.scopeName? around = some outer :=
  List.mem_filterMap

/-- What a node inside a scope would open, said case by case. -/
theorem inner?_eq_some_iff {spot : Spot} {inner : String} :
    source.inner? spot.node = some inner
      ↔ (∃ kind record, spot.node.declares? = some kind
          ∧ kind.isContractLike = true
          ∧ source.record? spot.before spot.node kind = some record
          ∧ record.name = some inner)
        ∨ (spot.node.isError = true ∨ spot.node.declares? = some .stateVar)
          ∧ scopeHeaderName? (source.text spot.node) = some inner := by
  constructor
  · intro h
    unfold inner? at h
    split at h
    · next hrecovered =>
        rw [Bool.or_eq_true, beq_iff_eq] at hrecovered
        exact .inr ⟨hrecovered, h⟩
    · exact .inl ((scopeName?_eq_some_iff spot.before).1 h)
  · rintro (h | ⟨hrecovered, h⟩)
    · exact inner?_of_scopeName? ((scopeName?_eq_some_iff spot.before).2 h)
    · rw [inner?, if_pos (by rw [Bool.or_eq_true, beq_iff_eq]; exact hrecovered)]
      exact h

theorem violates_iff {spot : Spot} {inner outer : String} :
    source.Violates spot inner outer
      ↔ outer ∈ source.scopesAround spot
        ∧ source.inner? spot.node = some inner := by
  rw [mem_scopesAround_iff, inner?_eq_some_iff]
  constructor
  · rintro (⟨hmem, hname, hdeclares, hlike, hrecord, hinner⟩
      | ⟨hmem, hname, hrecovered, hinner⟩)
    · exact ⟨⟨_, hmem, hname⟩, .inl ⟨_, _, hdeclares, hlike, hrecord, hinner⟩⟩
    · exact ⟨⟨_, hmem, hname⟩, .inr ⟨hrecovered, hinner⟩⟩
  · rintro ⟨⟨around, hmem, hname⟩, h⟩
    rcases h with ⟨kind, record, hdeclares, hlike, hrecord, hinner⟩
      | ⟨hrecovered, hinner⟩
    · exact .declared hmem hname hdeclares hlike hrecord hinner
    · exact .recovered hmem hname hrecovered hinner

/-- A spot without a violation is one that nothing makes a violation. -/
theorem violation?_eq_none_iff {spot : Spot} :
    source.violation? spot = none
      ↔ ∀ inner outer, ¬ source.Violates spot inner outer := by
  constructor
  · intro h inner outer hviolates
    obtain ⟨hmem, hinner⟩ := violates_iff.1 hviolates
    cases hhead : (source.scopesAround spot).head? with
    | none =>
        rw [List.head?_eq_none_iff] at hhead
        rw [hhead] at hmem
        cases hmem
    | some nearest =>
        have hsome := violation?_eq_some_iff.2
          ⟨inner, nearest, hhead, hinner, rfl⟩
        rw [h] at hsome
        cases hsome
  · intro h
    cases hv : source.violation? spot with
    | none => rfl
    | some nesting =>
        obtain ⟨inner, outer, hhead, hinner, -⟩ := violation?_eq_some_iff.1 hv
        exact absurd (violates_iff.2 ⟨List.mem_of_head? hhead, hinner⟩)
          (h inner outer)

-- ====================================================== the first one

/-- Where nothing before a spot is a violation, at most one scope is around
it. -/
theorem scopesAround_eq_nil_or_singleton {spot : Spot}
    (h : source.Reached spot)
    (hbefore : ∀ other, source.Reached other → other.path < spot.path →
      source.violation? other = none) :
    source.scopesAround spot = [] ∨ ∃ outer, source.scopesAround spot = [outer] := by
  induction h with
  | refl => exact .inl rfl
  | @child parent earlier later node hparent hpass hchildren hnamed ih =>
      have hlt : parent.path < parent.path ++ [earlier.length] := by
        have hnil : parent.path ++ [] < parent.path ++ [earlier.length] :=
          List.append_left_lt (List.nil_lt_cons earlier.length [])
        rwa [List.append_nil] at hnil
      unfold scopesAround
      cases hname : source.scopeName? parent.node with
      | none =>
          rw [List.filterMap_cons_none hname]
          exact ih fun other hother hpath =>
            hbefore other hother (List.lt_trans hpath hlt)
      | some name =>
          -- the parent opens a scope, so there is none around it
          have hnil : parent.above.filterMap source.scopeName? = [] :=
            scopesAround_eq_nil (hbefore parent hparent hlt) hname
          rw [List.filterMap_cons_some hname, hnil]
          exact .inr ⟨name, rfl⟩

/-- The violation found first is that of the first spot in pre-order that has
one. -/
theorem first_of_findSome? {nesting : Nesting}
    (h : source.spots.findSome? source.violation? = some nesting) :
    ∃ spot, source.Reached spot ∧ source.violation? spot = some nesting
      ∧ ∀ other, source.Reached other → other.path < spot.path →
        source.violation? other = none := by
  obtain ⟨earlier, spot, later, hspots, hspot, hearlier⟩ :=
    List.findSome?_eq_some_iff.1 h
  have hsorted := sorted_spots source
  rw [hspots, List.pairwise_append, List.pairwise_cons] at hsorted
  have hreached : source.Reached spot := by
    rw [← mem_spots_iff, hspots]
    exact List.mem_append_right _ (List.mem_cons_self ..)
  refine ⟨spot, hreached, hspot, fun other hother hpath => ?_⟩
  rw [← mem_spots_iff, hspots] at hother
  rcases List.mem_append.1 hother with hmem | hmem
  · exact hearlier other hmem
  · rcases List.mem_cons.1 hmem with rfl | hmem
    · exact absurd hpath (List.lt_irrefl _)
    · exact absurd hpath (List.lt_asymm (hsorted.2.1.1 other hmem))

/-- Nesting is detected exactly. A file is refused if and only if some
reached node is a violation, and the error then names the first one in
pre-order, with the file, the line it starts on, the name it would open and
the one scope around it. -/
theorem nesting_detected_exactly (source : Source) :
    ((∃ nesting, source.definitions = .error nesting)
        ↔ ∃ spot inner outer, source.Reached spot
          ∧ source.Violates spot inner outer)
      ∧ ∀ nesting, source.definitions = .error nesting →
        ∃ spot inner outer, source.Reached spot
          ∧ source.Violates spot inner outer
          ∧ source.scopesAround spot = [outer]
          ∧ nesting = ⟨source.path, spot.node.row + 1, inner, outer⟩
          ∧ ∀ other, source.Reached other → other.path < spot.path →
            ∀ inner outer, ¬ source.Violates other inner outer := by
  constructor
  · constructor
    · rintro ⟨nesting, h⟩
      obtain ⟨spot, hreached, hspot, -⟩ :=
        first_of_findSome? (definitions_eq_error_iff.1 h)
      obtain ⟨inner, outer, hhead, hinner, -⟩ := violation?_eq_some_iff.1 hspot
      exact ⟨spot, inner, outer, hreached,
        violates_iff.2 ⟨List.mem_of_head? hhead, hinner⟩⟩
    · rintro ⟨spot, inner, outer, hreached, hviolates⟩
      cases hdefs : source.definitions with
      | error nesting => exact ⟨nesting, rfl⟩
      | ok defs =>
          have hnone := (definitions_eq_ok_iff.1 hdefs).1 spot
            (mem_spots_iff.2 hreached)
          exact absurd hviolates (violation?_eq_none_iff.1 hnone inner outer)
  · intro nesting h
    obtain ⟨spot, hreached, hspot, hfirst⟩ :=
      first_of_findSome? (definitions_eq_error_iff.1 h)
    obtain ⟨inner, outer, hhead, hinner, hnesting⟩ :=
      violation?_eq_some_iff.1 hspot
    have hscopes : source.scopesAround spot = [outer] := by
      rcases scopesAround_eq_nil_or_singleton hreached hfirst with hnil | ⟨only, honly⟩
      · rw [hnil] at hhead
        cases hhead
      · rw [honly] at hhead
        cases hhead
        exact honly
    refine ⟨spot, inner, outer, hreached,
      violates_iff.2 ⟨List.mem_of_head? hhead, hinner⟩, hscopes, hnesting, ?_⟩
    intro other hother hpath
    exact violation?_eq_none_iff.1 (hfirst other hother hpath)

/-- A contract inside a contract, and a library behind them that is never
looked at. -/
def nestedFile : Source where
  path := "a.sol"
  bytes := "contract A\x7b\ncontract B\x7b\x7d\x7d\nlibrary C\x7b\x7d".toUTF8
  recovered := true
  root := ⟨"source_file", true, none, 0, 37, 0,
    [⟨"contract_declaration", true, none, 0, 25, 0,
      [⟨"identifier", true, some "name", 9, 10, 0, []⟩,
        ⟨"contract_body", true, some "body", 10, 25, 0,
          [⟨"ERROR", true, none, 12, 24, 1, []⟩]⟩]⟩,
      ⟨"library_declaration", true, none, 26, 37, 2,
        [⟨"identifier", true, some "name", 34, 35, 2, []⟩]⟩]⟩

theorem nestedFile_refused :
    nestedFile.definitions = .error ⟨"a.sol", 2, "B", "A"⟩
      ∧ ∃ spot, nestedFile.Reached spot ∧ nestedFile.Violates spot "B" "A"
        ∧ nestedFile.scopesAround spot = ["A"] ∧ spot.node.row = 1 := by
  have h : nestedFile.definitions = .error ⟨"a.sol", 2, "B", "A"⟩ := by
    decide +kernel
  obtain ⟨spot, inner, outer, hreached, hviolates, hscopes, hnesting, -⟩ :=
    (nesting_detected_exactly nestedFile).2 _ h
  rw [Nesting.mk.injEq] at hnesting
  obtain ⟨-, hrow, rfl, rfl⟩ := hnesting
  exact ⟨h, spot, hreached, hviolates, hscopes, (Nat.succ.inj hrow).symm⟩

end ContractDocs.Source
