/-
Modifiers are read back from the way they are written, whether they come
from the text of a node or from a header.

The two readers look for the arguments in different places. The text of a
node has them between its first opening and its last closing parenthesis,
matched or not; a header has them in the group behind a word. What either
finds is `Readable`: a bare modifier is collapsed and has no parenthesis that
opens before another one closes; a name has no blank and no opening
parenthesis, and its arguments are a list's entries, joined. A readable
modifier is found again as it was, since its own parentheses are then the
first and the last of the written form (`ofText_render_of_readable`).
-/
import ContractDocs.Proofs.Signature.Grammar
import ContractDocs.Proofs.Text.Cuts
import ContractDocs.Source.Declaration

namespace ContractDocs

open Text Grouping

namespace Modifier

-- ===================================================== groups in a text

/-- Some parenthesis of the text opens before another one closes. -/
def Grouped (text : List Char) : Prop :=
  ['(', ')'].Sublist text

/-- The first parenthesis that opens will do. -/
theorem grouped_append {before : List Char} (hbefore : '(' ∉ before)
    (rest : List Char) : Grouped (before ++ '(' :: rest) ↔ ')' ∈ rest := by
  unfold Grouped
  induction before with
  | nil => rw [List.nil_append, List.cons_sublist_cons, List.singleton_sublist]
  | cons c before ih =>
      rw [List.mem_cons, not_or] at hbefore
      rw [List.cons_append, ← ih hbefore.2]
      constructor
      · intro h
        cases h with
        | cons _ h => exact h
        | cons_cons _ h => exact absurd rfl hbefore.1
      · exact fun h => h.cons c

theorem not_grouped_of_no_open {text : List Char} (h : '(' ∉ text) : ¬ Grouped text :=
  fun hgroup => h (hgroup.subset (by simp))

/-- Blanks and whatever else is no parenthesis do not matter. -/
theorem grouped_filter_isParen (text : List Char) :
    Grouped (text.filter isParen) ↔ Grouped text :=
  ⟨fun h => h.trans List.filter_sublist, fun h => h.filter isParen⟩

theorem grouped_collapse (text : List Char) : Grouped (collapse text) ↔ Grouped text := by
  have hparens : (collapse text).filter isParen = text.filter isParen :=
    filter_eq_of_tokens_eq (tokens_collapse text) fun _ => isBlank_of_isParen
  rw [← grouped_filter_isParen, hparens, grouped_filter_isParen]

/-- A group reaches from the first opening to the last closing
parenthesis. -/
theorem exists_group {text : List Char} (h : Grouped text) :
    ∃ before inside after, text = before ++ '(' :: (inside ++ ')' :: after)
      ∧ '(' ∉ before ∧ ')' ∉ after := by
  cases hcut : cutFirst '(' text with
  | none => exact absurd h (not_grouped_of_no_open (cutFirst_eq_none_iff.1 hcut))
  | some found =>
      obtain ⟨before, rest⟩ := found
      obtain ⟨rfl, hbefore⟩ := cutFirst_eq_some_iff.1 hcut
      cases hclose : cutLast ')' rest with
      | none =>
          exact absurd ((grouped_append hbefore rest).1 h) (cutLast_eq_none_iff.1 hclose)
      | some found =>
          obtain ⟨inside, after⟩ := found
          obtain ⟨rfl, hafter⟩ := cutLast_eq_some_iff.1 hclose
          exact ⟨before, inside, after, rfl, hbefore, hafter⟩

-- =================================================== reading from a text

/-- Without a group the whole text is the modifier. -/
theorem ofText_of_not_grouped {text : String} (h : ¬ Grouped text.toList) :
    ofText text = .word (String.ofList (collapse text.toList)) := by
  unfold ofText
  split
  · next before rest hcut =>
      obtain ⟨htext, hbefore⟩ := cutFirst_eq_some_iff.1 hcut
      rw [htext, grouped_append hbefore] at h
      rw [cutLast_eq_none_iff.2 h]
  · rfl

/-- With one, the name stands before it and the arguments stand in it. -/
theorem ofText_of_group {text : String} {before inside after : List Char}
    (htext : text.toList = before ++ '(' :: (inside ++ ')' :: after))
    (hbefore : '(' ∉ before) (hafter : ')' ∉ after) :
    ofText text = .call (String.ofList (before.filter (!isBlank ·)))
      (splitTopLevel (String.ofList inside)) := by
  unfold ofText
  rw [htext, cutFirst_append hbefore]
  dsimp only
  rw [cutLast_append hafter, splitTopLevel, String.toList_ofList, flatten_words]

-- ================================================== readable modifiers

/-- What a modifier is like that some text reads as. -/
def Readable : Modifier → Prop
  | word text => collapse text.toList = text.toList ∧ ¬ Grouped text.toList
  | call name args => (∀ c ∈ name.toList, isBlank c = false ∧ c ≠ '(')
      ∧ splitTopLevel (", ".intercalate args) = args

theorem readable_ofText (text : String) : (ofText text).Readable := by
  by_cases h : Grouped text.toList
  · obtain ⟨before, inside, after, htext, hbefore, hafter⟩ := exists_group h
    rw [ofText_of_group htext hbefore hafter]
    refine ⟨fun c hc => ?_, splitTopLevel_join_split _⟩
    rw [String.toList_ofList, List.mem_filter, Bool.not_eq_true'] at hc
    refine ⟨hc.2, ?_⟩
    rintro rfl
    exact hbefore hc.1
  · rw [ofText_of_not_grouped h]
    rw [Readable, String.toList_ofList, grouped_collapse]
    exact ⟨collapse_collapse _, h⟩

/-- A readable modifier is read from the way it is written. -/
theorem ofText_render_of_readable {m : Modifier} (h : m.Readable) :
    ofText m.render = m := by
  cases m with
  | word text =>
      obtain ⟨hcollapsed, hgroup⟩ := h
      rw [render, ofText_of_not_grouped hgroup, hcollapsed, String.ofList_toList]
  | call name args =>
      obtain ⟨hname, hargs⟩ := h
      have htext : (call name args).render.toList
          = name.toList ++ '(' :: ((", ".intercalate args).toList ++ [')']) := by
        simp [render]
      have hopen : '(' ∉ name.toList := fun hc => (hname _ hc).2 rfl
      rw [ofText_of_group htext hopen List.not_mem_nil,
        filter_of_no_blank fun c hc => (hname c hc).1, String.ofList_toList,
        String.ofList_toList, hargs]

end Modifier

-- ================================================ modifiers of a header

namespace CallableHeader

theorem Clause.WellFormed.readable {clause : Clause} (hclause : clause.WellFormed)
    {m : Modifier} (h : clause.modifier? = some m) : m.Readable := by
  have hname : ∀ c ∈ clause.word.toList, isBlank c = false ∧ c ≠ '(' := by
    intro c hc
    have hword := hclause.word.isWord c hc
    refine ⟨isBlank_of_isWord hword, ?_⟩
    rintro rfl
    exact absurd hword (by decide)
  unfold Clause.modifier? at h
  split at h
  · cases h
  · split at h
    · cases h
      refine ⟨collapse_of_no_blank hclause.word.ne_nil fun c hc => (hname c hc).1, ?_⟩
      exact Modifier.not_grouped_of_no_open fun hc => (hname _ hc).2 rfl
    · next list _ =>
        cases h
        have hargs := splitTopLevel_join_split (String.ofList list)
        rw [splitTopLevel, splitTopLevel, String.toList_ofList] at hargs
        exact ⟨hname, hargs⟩

/-- Every modifier that a header lists is readable. -/
theorem readable_of_read {kind : Kind} {text : List Char} {header : CallableHeader}
    (h : read kind text = .ok header) : ∀ m ∈ header.modifiers, m.Readable := by
  obtain ⟨written, list, rest, tail, -, -, -, -, htail, rfl⟩ := read_eq_ok_iff.1 h
  obtain ⟨hfold, -⟩ := readTail_eq_ok_iff.1 htail
  obtain ⟨-, -, htail⟩ := Tail.foldlM_eq_ok_iff.1 hfold
  have hmodifiers : header.modifiers = (clauses rest).1.filterMap Clause.modifier? :=
    congrArg Tail.modifiers htail
  intro m hm
  rw [hmodifiers] at hm
  obtain ⟨clause, hclause, hm⟩ := List.mem_filterMap.1 hm
  exact (wellFormed_of_mem_clauses rest clause hclause).readable hm

end CallableHeader

/-- A modifier is read back from the way it is written: whatever the text it
was read from, and whatever the header that lists it. -/
theorem modifiers_read_back :
    (∀ text, Modifier.ofText (Modifier.ofText text).render = Modifier.ofText text)
      ∧ ∀ kind header parts, Signature.read kind header = .ok (.callable parts) →
        ∀ m ∈ parts.modifiers, Modifier.ofText m.render = m := by
  refine ⟨fun text => Modifier.ofText_render_of_readable (Modifier.readable_ofText text),
    fun kind header parts h m hm => Modifier.ofText_render_of_readable ?_⟩
  cases kind with
  | contract | library | interface | struct | enum | stateVar =>
      obtain ⟨_, -, hparts⟩ := map_eq_ok_iff.1 h
      cases hparts
  | constructor | function | modifier | event =>
      obtain ⟨header, hread, hparts⟩ := map_eq_ok_iff.1 h
      cases hparts
      exact CallableHeader.readable_of_read hread m hm

/-- In a text the parentheses need not match, and in a header they do. -/
theorem guardedModifiers_read :
    (Modifier.ofText "on ly( a,)(b ,c) x" = .call "only" ["a", ")(b", "c"]
        ∧ Modifier.ofText "only(a, )(b, c)" = .call "only" ["a", ")(b", "c"])
      ∧ Signature.read .function "f() guard( 1 ,[2, g(3)]) public"
          = .ok (.callable
              ⟨some "f", [], [.call "guard" ["1", "[2, g(3)]"], .word "public"], none⟩)
        ∧ Modifier.ofText "guard(1, [2, g(3)])" = .call "guard" ["1", "[2, g(3)]"] := by
  have htext : Modifier.ofText "on ly( a,)(b ,c) x" = .call "only" ["a", ")(b", "c"] := by
    decide +kernel
  have hheader : Signature.read .function "f() guard( 1 ,[2, g(3)]) public"
      = .ok (.callable
          ⟨some "f", [], [.call "guard" ["1", "[2, g(3)]"], .word "public"], none⟩) := by
    cbv
  obtain ⟨hagain, hlisted⟩ := modifiers_read_back
  have hcall := hagain "on ly( a,)(b ,c) x"
  rw [htext] at hcall
  have hguard := hlisted _ _ _ hheader _ List.mem_cons_self
  exact ⟨⟨htext, hcall⟩, hheader, hguard⟩

end ContractDocs
