/-
Cuts at one character, and texts that trimming leaves alone. A cut says
where its character stands first or last: what lies on the one side is free
of it (`cutFirst_eq_some_iff`, `cutLast_eq_some_iff`).
-/
import ContractDocs.Proofs.Text.Tokens

namespace ContractDocs.Text

-- ========================================================= the first one

theorem cutFirst_eq_none_iff {c : Char} {x : List Char} :
    cutFirst c x = none ↔ c ∉ x := by
  induction x with
  | nil => simp [cutFirst]
  | cons d x ih =>
      rw [cutFirst]
      by_cases hd : d = c
      · simp [hd]
      · simp [hd, ih, Ne.symm hd]

theorem cutFirst_append {c : Char} {x : List Char} (hx : c ∉ x)
    (y : List Char) : cutFirst c (x ++ c :: y) = some (x, y) := by
  induction x with
  | nil => simp [cutFirst]
  | cons d x ih =>
      rw [List.mem_cons, not_or] at hx
      rw [List.cons_append, cutFirst, if_neg (Ne.symm hx.1), ih hx.2]
      rfl

theorem cutFirst_eq_some_iff {c : Char} {s x y : List Char} :
    cutFirst c s = some (x, y) ↔ s = x ++ c :: y ∧ c ∉ x := by
  constructor
  · intro h
    have hmem : c ∈ s := by
      by_contra hc
      rw [cutFirst_eq_none_iff.2 hc] at h
      cases h
    obtain ⟨x', y', rfl, hx'⟩ := List.eq_append_cons_of_mem hmem
    rw [cutFirst_append hx'] at h
    cases h
    exact ⟨rfl, hx'⟩
  · rintro ⟨rfl, hx⟩
    exact cutFirst_append hx y

-- ========================================================== the last one

section

variable {α : Type} [DecidableEq α]

theorem cutLast_eq_none_iff {c : α} {x : List α} :
    cutLast c x = none ↔ c ∉ x := by
  induction x with
  | nil => simp [cutLast]
  | cons d x ih =>
      rw [cutLast]
      cases hx : cutLast c x with
      | some found =>
          have hmem : c ∈ x := by
            by_contra hc
            rw [ih.2 hc] at hx
            cases hx
          simp [hmem]
      | none =>
          by_cases hd : d = c
          · simp [hd]
          · simp [hd, Ne.symm hd, ih.1 hx]

theorem cutLast_append {c : α} {y : List α} (hy : c ∉ y)
    (x : List α) : cutLast c (x ++ c :: y) = some (x, y) := by
  induction x with
  | nil => simp [cutLast, cutLast_eq_none_iff.2 hy]
  | cons d x ih => rw [List.cons_append, cutLast, ih]

theorem cutLast_eq_some_iff {c : α} {s x y : List α} :
    cutLast c s = some (x, y) ↔ s = x ++ c :: y ∧ c ∉ y := by
  constructor
  · intro h
    have hmem : c ∈ s := by
      by_contra hc
      rw [cutLast_eq_none_iff.2 hc] at h
      cases h
    obtain ⟨y', x', hs, hy'⟩ :=
      List.eq_append_cons_of_mem (List.mem_reverse.2 hmem)
    have hs' : s = x'.reverse ++ c :: y'.reverse := by
      rw [← List.reverse_reverse s, hs]
      simp
    rw [hs', cutLast_append (by simpa using hy')] at h
    cases h
    exact ⟨hs', by simpa using hy'⟩
  · rintro ⟨rfl, hy⟩
    exact cutLast_append hy x

end

-- ============================================================== trimming

/-- The end of a text is trimmed up to its last character that is no
blank. -/
theorem trimEnd_concat {c : Char} (hc : isBlank c = false) (x : List Char) :
    trimEnd (x ++ [c]) = x ++ [c] := by
  unfold trimEnd
  rw [List.reverse_append, List.reverse_singleton, List.singleton_append,
    List.dropWhile_cons_of_neg (by simp [hc])]
  simp

/-- In front of something that is no blank only leading blanks go. -/
theorem trim_concat {c : Char} (hc : isBlank c = false) (x : List Char) :
    trim (x ++ [c]) = trimStart x ++ [c] := by
  have hstart : trimStart (x ++ [c]) = trimStart x ++ [c] := by
    unfold trimStart
    rw [List.dropWhile_append]
    split
    · next h =>
        rw [List.dropWhile_cons_of_neg (by simp [hc]), List.isEmpty_iff.1 h]
        rfl
    · rfl
  rw [trim, hstart, trimEnd_concat hc]

/-- A text without blanks has none at its ends. -/
theorem trim_of_no_blank {x : List Char} (h : ∀ c ∈ x, isBlank c = false) :
    trim x = x := by
  rcases List.eq_nil_or_concat x with rfl | ⟨y, c, rfl⟩
  · rfl
  · rw [List.concat_eq_append] at h ⊢
    rw [trim_concat (h c (by simp))]
    cases y with
    | nil => rfl
    | cons d y => rw [trimStart_cons_of_not_blank (h d (by simp))]

end ContractDocs.Text
