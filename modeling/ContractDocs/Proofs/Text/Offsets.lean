/-
Offsets in a text, counted in bytes. No character's code begins like
another's, so a text whose bytes come first in another text is the beginning
of it (`prefix_of_utf8_prefix`). An ASCII byte is a character of its own and
no part of a longer code, so a text is cut in two where its bytes have one
(`exists_cut_at_ascii`).
-/
import ContractDocs.Proofs.Text.ByteOrder

namespace ContractDocs.Text

@[simp] theorem utf8_nil : utf8 [] = [] := rfl

@[simp] theorem utf8_cons (c : Char) (x : List Char) :
    utf8 (c :: x) = String.utf8EncodeChar c ++ utf8 x := rfl

@[simp] theorem utf8_append (x y : List Char) :
    utf8 (x ++ y) = utf8 x ++ utf8 y :=
  List.flatMap_append

-- ======================================================= codes side by side

/-- No character's code begins like another's. -/
theorem eq_of_utf8EncodeChar_append {c d : Char} {x y : Bytes}
    (h : String.utf8EncodeChar c ++ x = String.utf8EncodeChar d ++ y) :
    c = d := by
  by_contra hne
  have hnat : c.toNat ≠ d.toNat := fun heq => hne (Char.toNat_inj.1 heq)
  rcases Nat.lt_or_gt_of_ne hnat with hlt | hlt
  · have hbytes := utf8EncodeChar_lt (Char.lt_def.2 hlt) x y
    rw [h] at hbytes
    exact List.lt_irrefl _ hbytes
  · have hbytes := utf8EncodeChar_lt (Char.lt_def.2 hlt) y x
    rw [h] at hbytes
    exact List.lt_irrefl _ hbytes

theorem prefix_of_utf8_prefix {x : List Char} :
    ∀ {y : List Char}, utf8 x <+: utf8 y → x <+: y := by
  induction x with
  | nil => exact fun _ => List.nil_prefix
  | cons c x ih =>
      intro y h
      cases y with
      | nil => simp at h
      | cons d y =>
          obtain ⟨rest, hrest⟩ := h
          rw [utf8_cons, utf8_cons, List.append_assoc] at hrest
          obtain rfl := eq_of_utf8EncodeChar_append hrest
          rw [List.prefix_cons_inj]
          exact ih ⟨rest, List.append_cancel_left hrest⟩

/-- An ASCII byte is the whole code of its character. -/
theorem utf8EncodeChar_eq_of_mem {b : UInt8} {c : Char}
    (hmem : b ∈ String.utf8EncodeChar c) (hb : b.toNat < 128) :
    String.utf8EncodeChar c = [b] ∧ c.toNat = b.toNat := by
  unfold String.utf8EncodeChar at hmem ⊢
  show _ ∧ c.val.toNat = b.toNat
  generalize c.val.toNat = m at hmem ⊢
  dsimp only at hmem ⊢
  by_cases hascii : m ≤ 127
  · rw [if_pos hascii] at hmem ⊢
    obtain rfl := List.mem_singleton.1 hmem
    refine ⟨rfl, ?_⟩
    rw [UInt8.toNat_ofNat']
    omega
  · -- the bytes of a longer code all have their highest bit set
    exfalso
    rw [if_neg hascii] at hmem
    split_ifs at hmem <;>
      · simp only [List.mem_cons, List.not_mem_nil, or_false] at hmem
        rcases hmem with rfl | rfl | rfl | rfl <;>
          · rw [UInt8.toNat_ofNat'] at hb
            omega

/-- Only an ASCII character has its byte in its code. -/
theorem eq_of_toUInt8_mem {c d : Char} (hc : c.toNat < 128)
    (hmem : c.toUInt8 ∈ String.utf8EncodeChar d) : d = c := by
  have hbyte : c.toUInt8.toNat = c.toNat := by
    rw [Char.toUInt8, UInt32.toNat_toUInt8]
    exact Nat.mod_eq_of_lt (Nat.lt_trans hc (by decide))
  obtain ⟨-, hd⟩ := utf8EncodeChar_eq_of_mem hmem (by rwa [hbyte])
  exact Char.toNat_inj.1 (hd.trans hbyte)

theorem utf8EncodeChar_of_ascii {c : Char} (hc : c.toNat < 128) :
    String.utf8EncodeChar c = [c.toUInt8] := by
  have hsize : c.utf8Size = 1 := by
    rw [Char.utf8Size_eq_one_iff, UInt32.le_iff_toNat_le]
    exact Nat.le_of_lt_succ hc
  rw [String.utf8EncodeChar_eq_singleton hsize]
  rfl

-- ================================================================ offsets

/-- The text from an offset on. -/
def fromOffset : Nat → List Char → List Char
  | _, [] => []
  | offset, c :: rest =>
    if offset = 0 then c :: rest else fromOffset (offset - c.utf8Size) rest

theorem fromOffset_append (before rest : List Char) :
    fromOffset (utf8 before).length (before ++ rest) = rest := by
  induction before with
  | nil => cases rest <;> rfl
  | cons c before ih =>
      have hpos := c.utf8Size_pos
      rw [utf8_cons, List.length_append, String.length_utf8EncodeChar,
        List.cons_append, fromOffset, if_neg (by omega),
        Nat.add_sub_cancel_left, ih]

/-- Where the bytes of a text have an ASCII character, the text has it. -/
theorem exists_cut_at_ascii {c : Char} (hc : c.toNat < 128) {text : List Char} :
    ∀ {offset : Nat}, (utf8 text)[offset]? = some c.toUInt8 →
      ∃ before rest, text = before ++ c :: rest
        ∧ (utf8 before).length = offset := by
  induction text with
  | nil =>
      intro offset h
      cases h
  | cons d text ih =>
      intro offset h
      rw [utf8_cons, List.getElem?_append] at h
      split at h
      · next hlt =>
          obtain rfl := eq_of_toUInt8_mem hc (List.mem_of_getElem? h)
          rw [utf8EncodeChar_of_ascii hc, List.length_singleton] at hlt
          exact ⟨[], text, rfl, by rw [utf8_nil, List.length_nil]; omega⟩
      · next hge =>
          obtain ⟨before, rest, rfl, hlen⟩ := ih h
          refine ⟨d :: before, rest, rfl, ?_⟩
          rw [utf8_cons, List.length_append, hlen]
          omega

end ContractDocs.Text
