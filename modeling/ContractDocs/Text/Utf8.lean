/-
Text as bytes. Every text has its bytes in UTF-8, but not all bytes are
those of a text. They can be read as one all the same (`Text.lossy`): where
no character begins, U+FFFD takes the place of the bytes that could have
begun one, or of a single byte.

What a file system calls names and paths are bytes that may be no text
(`RawText`); text stands for its own bytes there.
-/

namespace ContractDocs

/-- Some bytes, of a text or not. -/
abbrev Bytes := List UInt8

namespace Text

/-- The bytes of characters. -/
def utf8 (chars : List Char) : Bytes :=
  chars.flatMap String.utf8EncodeChar

/-- The text that has the bytes, if there is one. -/
def ofUtf8? (bytes : Bytes) : Option String :=
  String.fromUTF8? ⟨bytes.toArray⟩

-- ========================================================= lossy text

/-- The character that bytes begin with. -/
def firstChar? (bytes : Bytes) : Option Char :=
  bytes.toByteArray.utf8DecodeChar? 0

/-- Where the bytes behind `lead` lie, in the code of a character that starts with it. -/
def followers (lead : UInt8) : List (UInt8 × UInt8) :=
  let any := (0x80, 0xBF)
  if lead < 0xC2 then []
  else if lead < 0xE0 then [any]
  else if lead = 0xE0 then [(0xA0, 0xBF), any]
  else if lead = 0xED then [(0x80, 0x9F), any]
  else if lead < 0xF0 then [any, any]
  else if lead = 0xF0 then [(0x90, 0xBF), any, any]
  else if lead < 0xF4 then [any, any, any]
  else if lead = 0xF4 then [(0x80, 0x8F), any, any]
  else []

/-- How many bytes at the start lie in the ranges given for them. -/
def countWithin : List (UInt8 × UInt8) → Bytes → Nat
  | (low, high) :: ranges, b :: bytes =>
    if low ≤ b ∧ b ≤ high then countWithin ranges bytes + 1 else 0
  | _, _ => 0

/-- The text of bytes behind the first `passed` ones. -/
def lossyFrom : (passed : Nat) → Bytes → List Char
  | _, [] => []
  | passed + 1, _ :: bytes => lossyFrom passed bytes
  | 0, lead :: bytes =>
    match firstChar? (lead :: bytes) with
    | some c => c :: lossyFrom (c.utf8Size - 1) bytes
    | none => '\uFFFD' :: lossyFrom (countWithin (followers lead) bytes) bytes

/-- The text that bytes are read as, with U+FFFD for what is no text. -/
def lossy (bytes : Bytes) : List Char :=
  lossyFrom 0 bytes

end Text

-- ============================================================ raw text

/-- Text as a file system has it: any bytes. -/
structure RawText where
  bytes : Bytes
deriving DecidableEq, Repr, Inhabited

namespace RawText

/-- The bytes of a text. -/
def ofText (text : String) : RawText :=
  ⟨Text.utf8 text.toList⟩

instance : Coe String RawText := ⟨ofText⟩

/-- How the bytes are shown. -/
def text (raw : RawText) : String :=
  String.ofList (Text.lossy raw.bytes)

end RawText

end ContractDocs
