/-
The order of texts is the order of their bytes. A text comes before another
by its first character that differs; in UTF-8 the same two texts differ first
somewhere in the bytes of that character, and in the same direction
(`utf8EncodeChar_lt`): a longer code starts with a larger byte, and codes of
one length write the digits of the code point, the most significant first.
-/
import ContractDocs.Text.Utf8
import Mathlib.Data.List.Lex
import Mathlib.Tactic.SplitIfs

namespace ContractDocs.Text

theorem ofNat_lt_ofNat_iff {m n : Nat} (hm : m < 256) (hn : n < 256) :
    UInt8.ofNat m < UInt8.ofNat n ↔ m < n := by
  rw [UInt8.lt_iff_toNat_lt, UInt8.toNat_ofNat', UInt8.toNat_ofNat',
    Nat.mod_eq_of_lt hm, Nat.mod_eq_of_lt hn]

theorem ofNat_eq_ofNat_iff {m n : Nat} (hm : m < 256) (hn : n < 256) :
    UInt8.ofNat m = UInt8.ofNat n ↔ m = n := by
  rw [← UInt8.toNat_inj, UInt8.toNat_ofNat', UInt8.toNat_ofNat',
    Nat.mod_eq_of_lt hm, Nat.mod_eq_of_lt hn]

/-- The bytes of a smaller character come first, whatever follows. -/
theorem utf8EncodeChar_lt {c d : Char} (h : c < d) (x y : Bytes) :
    String.utf8EncodeChar c ++ x < String.utf8EncodeChar d ++ y := by
  have hcd : c.val.toNat < d.val.toNat := h
  have hd : d.val.toNat < 0x110000 := by
    have hvalid := d.valid
    rw [UInt32.isValidChar, Nat.isValidChar] at hvalid
    omega
  unfold String.utf8EncodeChar
  generalize c.val.toNat = m at hcd
  generalize d.val.toNat = n at hcd hd
  -- code points end early enough for the first digit to be written in full
  have hfirst : m / 262144 % 8 = m / 262144 ∧ n / 262144 % 8 = n / 262144 := by omega
  -- one to four bytes on either side
  dsimp only
  split_ifs <;>
    simp (disch := omega) only [List.cons_append, List.nil_append, List.cons_lt_cons_iff,
      ofNat_lt_ofNat_iff, ofNat_eq_ofNat_iff] <;>
    omega

/-- Texts in order have their bytes in order. -/
theorem utf8_lt_utf8 {x y : List Char} (h : x < y) : utf8 x < utf8 y := by
  rw [utf8, utf8]
  have hlex : List.Lex (· < ·) x y := h
  induction hlex with
  | @nil d y =>
      rw [List.flatMap_nil, List.flatMap_cons]
      obtain ⟨b, rest, hcode⟩ : ∃ b rest, String.utf8EncodeChar d = b :: rest :=
        List.exists_cons_of_ne_nil (by simp)
      rw [hcode]
      exact List.nil_lt_cons b _
  | cons hxy ih =>
      rw [List.flatMap_cons, List.flatMap_cons]
      exact List.append_left_lt (ih hxy)
  | rel hcd =>
      rw [List.flatMap_cons, List.flatMap_cons]
      exact utf8EncodeChar_lt hcd _ _

end ContractDocs.Text
