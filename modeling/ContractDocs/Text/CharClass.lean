/-
The character classes the readers of this library cut text by: blanks,
word characters, alphanumerics, and the characters that a quoted text
cannot show as they are. ASCII is decided by the character itself, the
rest by the tables.

A blank is never a word character (`isWord_of_isBlank`), so a text splits
into words, blanks and symbols without overlap.
-/
import ContractDocs.Text.Additions
import ContractDocs.Text.Alphabetic
import ContractDocs.Text.Extenders
import ContractDocs.Text.Marks
import ContractDocs.Text.Numerals
import ContractDocs.Text.Unprintable

namespace ContractDocs.Text

/-- The code points with the property White_Space. -/
def blanks : Ranges :=
  [(0x9, 0xD), (0x20, 0x20), (0x85, 0x85), (0xA0, 0xA0), (0x1680, 0x1680), (0x2000, 0x200A),
    (0x2028, 0x2029), (0x202F, 0x202F), (0x205F, 0x205F), (0x3000, 0x3000)]

/-- Space, tab, line ends and the other characters with the property White_Space. -/
def isBlank (c : Char) : Bool :=
  blanks.covers c

/-- The zero width joiner and non-joiner, which stand inside words. -/
def joiners : Ranges :=
  [(0x200C, 0x200D)]

/-- Letters, marks, decimal digits, connectors such as `_`, and joiners. -/
def isWord (c : Char) : Bool :=
  if c.toNat < 0x80 then c.isAlphanum || c == '_'
  else alphabetic.covers c || marks.covers c || decimalDigits.covers c || connectors.covers c
    || joiners.covers c

/-- Letters and numbers of every script, the latest additions too; no marks and no `_`. -/
def isAlphanumeric (c : Char) : Bool :=
  if c.toNat < 0x80 then c.isAlphanum
  else alphabetic.covers c || decimalDigits.covers c || otherNumbers.covers c
    || addedLetters.covers c || addedDigits.covers c

/-- Neither a word character nor a blank: what stands for itself in a header. -/
def isSymbol (c : Char) : Bool :=
  !isWord c && !isBlank c

/-- Characters a quoted text writes by number: controls, and beyond ASCII whatever has no
picture or only extends the character before it. -/
def isHidden (c : Char) : Bool :=
  if c.toNat < 0x80 then c.toNat < 0x20 || c.toNat == 0x7F
  else unprintable.covers c || extenders.covers c

-- ================================================== blanks and words

/-- Every code point of `blanks`, one by one. -/
def blankPoints : List Nat :=
  blanks.flatMap fun range => (List.range (range.2 + 1 - range.1)).map (range.1 + ·)

theorem mem_blankPoints_of_isBlank {c : Char} (h : isBlank c = true) :
    c.toNat ∈ blankPoints := by
  simp only [isBlank, Ranges.covers, List.any_eq_true, Bool.and_eq_true, decide_eq_true_eq] at h
  obtain ⟨range, hrange, hlo, hhi⟩ := h
  refine List.mem_flatMap.2 ⟨range, hrange, List.mem_map.2 ⟨c.toNat - range.1, ?_, by omega⟩⟩
  exact List.mem_range.2 (by omega)

/-- No blank is a word character. -/
theorem isWord_of_isBlank {c : Char} (h : isBlank c = true) : isWord c = false := by
  have hmem := mem_blankPoints_of_isBlank h
  have hall : ∀ n ∈ blankPoints, isWord (Char.ofNat n) = false := by decide +kernel
  have := hall _ hmem
  rwa [Char.ofNat_toNat] at this

/-- No word character is a blank. -/
theorem isBlank_of_isWord {c : Char} (h : isWord c = true) : isBlank c = false := by
  cases hb : isBlank c
  · rfl
  · rw [isWord_of_isBlank hb] at h
    exact absurd h (by decide)

end ContractDocs.Text
