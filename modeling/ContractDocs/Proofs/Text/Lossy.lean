/-
Bytes read as text. Reading takes one character, or one replacement for what
is none, from the front and goes on behind it (`lossyFrom`); the inductions
below are over this recursion. Text is read as it is (`lossy_utf8`). Bytes
that are not text show themselves by a replacement (`utf8_lossy`), and the
ASCII characters that are read are bytes of their own
(`toUInt8_mem_of_mem_lossy`). A strict reader takes the bytes of texts and
nothing else (`ofUtf8?_eq_some_iff`).
-/
import ContractDocs.Proofs.Text.Offsets

namespace ContractDocs

namespace Text

variable {bytes : Bytes} {c : Char}

-- ======================================================= one character

theorem firstChar?_append (c : Char) (rest : Bytes) :
    firstChar? (String.utf8EncodeChar c ++ rest) = some c := by
  rw [firstChar?, List.toByteArray_append]
  exact ByteArray.utf8DecodeChar?_utf8EncodeChar_append

/-- The bytes begin with the code of the character that is read first. -/
theorem eq_append_of_firstChar? (h : firstChar? bytes = some c) :
    bytes = String.utf8EncodeChar c ++ bytes.drop c.utf8Size := by
  have hprefix : String.utf8EncodeChar c <+: bytes := by
    obtain ⟨rest, hrest⟩ := ByteArray.exists_of_utf8DecodeChar?_eq_some h
    refine ⟨rest.data.toList, ?_⟩
    have hlists := congrArg (fun array : ByteArray => array.data.toList) hrest
    simpa using hlists.symm
  obtain ⟨rest, rfl⟩ := hprefix
  rw [← String.length_utf8EncodeChar, List.drop_left]

/-- A character that is read first has the first byte and some of those behind it. -/
theorem cons_eq_append_of_firstChar? {lead : UInt8} (h : firstChar? (lead :: bytes) = some c) :
    lead :: bytes = String.utf8EncodeChar c ++ bytes.drop (c.utf8Size - 1) := by
  have hsize : c.utf8Size = c.utf8Size - 1 + 1 := by
    have hpos := c.utf8Size_pos
    omega
  conv => lhs; rw [eq_append_of_firstChar? h, hsize, List.drop_succ_cons]

-- ============================================================= reading

@[simp] theorem lossyFrom_nil (passed : Nat) : lossyFrom passed [] = [] := by
  cases passed <;> rfl

/-- What is passed over makes no difference to what is read behind it. -/
theorem lossyFrom_append (front rest : Bytes) :
    lossyFrom front.length (front ++ rest) = lossy rest := by
  induction front with
  | nil => rfl
  | cons b front ih => exact ih

theorem lossy_utf8EncodeChar_append (c : Char) (rest : Bytes) :
    lossy (String.utf8EncodeChar c ++ rest) = c :: lossy rest := by
  obtain ⟨lead, tail, hcode⟩ : ∃ lead tail, String.utf8EncodeChar c = lead :: tail :=
    List.exists_cons_of_ne_nil (by simp)
  have hfirst := firstChar?_append c rest
  have hsize : c.utf8Size - 1 = tail.length := by
    rw [← String.length_utf8EncodeChar, hcode]
    rfl
  rw [hcode, List.cons_append] at hfirst ⊢
  rw [lossy, lossyFrom, hfirst]
  dsimp only
  rw [hsize, lossyFrom_append]

/-- Text is read as it is. -/
@[simp] theorem lossy_utf8 (chars : List Char) : lossy (utf8 chars) = chars := by
  induction chars with
  | nil => rfl
  | cons c chars ih => rw [utf8_cons, lossy_utf8EncodeChar_append, ih]

theorem utf8_injective {x y : List Char} (h : utf8 x = utf8 y) : x = y := by
  rw [← lossy_utf8 x, h, lossy_utf8]

/-- Where nothing is replaced, the bytes are those of the text. -/
theorem utf8_lossyFrom (passed : Nat) (bytes : Bytes)
    (h : '\uFFFD' ∉ lossyFrom passed bytes) :
    utf8 (lossyFrom passed bytes) = bytes.drop passed := by
  fun_induction lossyFrom passed bytes with
  | case1 passed => simp
  | case2 passed b bytes ih => exact ih h
  | case3 lead bytes c hfirst ih =>
      rw [List.mem_cons, not_or] at h
      rw [utf8_cons, ih h.2, List.drop_zero, ← cons_eq_append_of_firstChar? hfirst]
  | case4 lead bytes hnone ih => simp at h

theorem utf8_lossy (h : '\uFFFD' ∉ lossy bytes) : utf8 (lossy bytes) = bytes :=
  utf8_lossyFrom 0 bytes h

/-- An ASCII character that is read is one of the bytes. -/
theorem toUInt8_mem_of_mem_lossyFrom (hc : c.toNat < 128) (passed : Nat) (bytes : Bytes)
    (h : c ∈ lossyFrom passed bytes) : c.toUInt8 ∈ bytes := by
  fun_induction lossyFrom passed bytes with
  | case1 passed => cases h
  | case2 passed b bytes ih => exact List.mem_cons_of_mem b (ih h)
  | case3 lead bytes d hfirst ih =>
      rcases List.mem_cons.1 h with rfl | h
      · rw [cons_eq_append_of_firstChar? hfirst, utf8EncodeChar_of_ascii hc]
        exact List.mem_cons_self ..
      · exact List.mem_cons_of_mem lead (ih h)
  | case4 lead bytes hnone ih =>
      rcases List.mem_cons.1 h with rfl | h
      · exact absurd hc (by decide)
      · exact List.mem_cons_of_mem lead (ih h)

theorem toUInt8_mem_of_mem_lossy (hc : c.toNat < 128) (h : c ∈ lossy bytes) :
    c.toUInt8 ∈ bytes :=
  toUInt8_mem_of_mem_lossyFrom hc 0 bytes h

/-- What is read begins with an ASCII character when the bytes do. -/
theorem head?_lossy_eq_some_iff (hc : c.toNat < 128) :
    (lossy bytes).head? = some c ↔ bytes.head? = some c.toUInt8 := by
  cases bytes with
  | nil => simp [lossy]
  | cons lead bytes =>
      constructor
      · intro h
        rw [lossy, lossyFrom] at h
        split at h
        · next d hfirst =>
            obtain rfl : d = c := Option.some.inj h
            rw [cons_eq_append_of_firstChar? hfirst, utf8EncodeChar_of_ascii hc]
            rfl
        · obtain rfl : '\uFFFD' = c := Option.some.inj h
          exact absurd hc (by decide)
      · intro h
        obtain rfl : lead = c.toUInt8 := Option.some.inj h
        have hread := lossy_utf8EncodeChar_append c bytes
        rw [utf8EncodeChar_of_ascii hc, List.singleton_append] at hread
        rw [hread]
        rfl

-- =============================================================== texts

/-- The bytes of a string are those of its characters. -/
theorem toByteArray_eq_utf8 (text : String) : text.toByteArray = (utf8 text.toList).toByteArray := by
  conv => lhs; rw [← String.ofList_toList (s := text)]
  rw [String.toByteArray_ofList]
  rfl

/-- Bytes are those of at most one text. -/
theorem ofUtf8?_eq_some_iff {bytes : Bytes} {text : String} :
    ofUtf8? bytes = some text ↔ bytes = utf8 text.toList := by
  have harray : (⟨bytes.toArray⟩ : ByteArray) = bytes.toByteArray :=
    ByteArray.ext List.data_toByteArray.symm
  rw [ofUtf8?, harray, String.fromUTF8?]
  constructor
  · intro h
    split at h
    · next hvalid =>
        cases h
        have hbytes : bytes.toByteArray
            = (utf8 (String.fromUTF8 bytes.toByteArray hvalid).toList).toByteArray :=
          toByteArray_eq_utf8 (String.fromUTF8 bytes.toByteArray hvalid)
        simpa using congrArg (fun array : ByteArray => array.data.toList) hbytes
    · cases h
  · rintro rfl
    simp only [← toByteArray_eq_utf8]
    rw [dif_pos text.isValidUTF8]
    rfl

end Text

namespace RawText

open Text

@[simp] theorem bytes_ofText (text : String) : (ofText text).bytes = utf8 text.toList := rfl

/-- Text is shown as it is. -/
@[simp] theorem text_ofText (text : String) : (ofText text).text = text := by
  rw [RawText.text, bytes_ofText, lossy_utf8, String.ofList_toList]

theorem toList_text (raw : RawText) : raw.text.toList = lossy raw.bytes :=
  String.toList_ofList

/-- Only its own bytes are shown as a text without replacements. -/
theorem eq_ofText_of_text {raw : RawText} {text : String} (h : raw.text = text)
    (hplain : '\uFFFD' ∉ text.toList) : raw = ofText text := by
  subst h
  rw [toList_text] at hplain
  obtain ⟨bytes⟩ := raw
  rw [ofText, toList_text, utf8_lossy hplain]

end RawText

end ContractDocs
