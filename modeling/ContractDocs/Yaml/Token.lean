/-
The tokens of a YAML stream, and how those with a form of their own are
read: anchors and aliases, tags, and directives. A tag is made of bytes, since
a percent sign can write any of them, and it ends before a zero byte.
-/
import ContractDocs.Text.Utf8
import ContractDocs.Yaml.Scalar

namespace ContractDocs.Yaml

/-- A token. The columns of the text show only through the tokens that open and close blocks. -/
inductive Token where
  | documentStart
  | documentEnd
  | version (major minor : Nat)
  | tagHandle (handle : String) (uri : Bytes)
  | blockSequence
  | blockMapping
  | blockEnd
  | blockEntry
  | flowSequence
  | flowSequenceEnd
  | flowMapping
  | flowMappingEnd
  | flowEntry
  | key
  | value
  | anchor (name : String)
  | alias (name : String)
  | tag (handle : String) (suffix : Bytes)
  | scalar (text : String) (style : Style)
deriving DecidableEq, Repr, Inhabited

-- ============================================================ anchors

/-- The characters that may follow an anchor directly. -/
def anchorEnds : List Char := ['?', ':', ',', ']', '\x7d', '%', '@', '\x60']

/-- Reads the name of an anchor or an alias after its indicator. -/
def anchorName? (cursor : Cursor) : Option (String × Cursor) :=
  let (name, cursor) := cursor.takeWhile isNameChar
  if name ≠ [] && (atGap cursor.rest || cursor.rest.head?.any anchorEnds.contains) then
    some (String.ofList name, cursor)
  else none

-- =============================================================== tags

/-- A character of a tag; commas and brackets only between angle brackets or in a directive. -/
def isTagChar (verbatim : Bool) (c : Char) : Bool :=
  let marks :=
    [';', '/', '?', ':', '@', '&', '=', '+', '$', '.', '%', '!', '~', '*', '\'', '(', ')']
  isNameChar c || marks.contains c
    || (verbatim && [',', '[', ']'].contains c)

/-- Reads a byte that is written as a percent sign and two digits. -/
def escapedByte? : List Char → Option (UInt8 × List Char)
  | '%' :: a :: b :: rest => (Text.hexNumber? [a, b]).map (·.toUInt8, rest)
  | _ => none

/-- How many bytes follow the first byte of a character. -/
def trailLength? (lead : UInt8) : Option Nat :=
  if lead < 0x80 then some 0
  else if 0xc0 ≤ lead && lead < 0xe0 then some 1
  else if 0xe0 ≤ lead && lead < 0xf0 then some 2
  else if 0xf0 ≤ lead && lead < 0xf8 then some 3
  else none

/-- Reads the bytes of a character behind its first. -/
def escapedTrail? : Nat → List Char → Option (Bytes × List Char)
  | 0, rest => some ([], rest)
  | n + 1, rest => do
    let (byte, rest) ← escapedByte? rest
    if 0x80 ≤ byte && byte < 0xc0 then
      let (trail, rest) ← escapedTrail? n rest
      return (byte :: trail, rest)
    else none

/-- Reads a character that is written byte by byte. Whether the bytes are those of a character is
judged by their leading bits only. -/
def escapedChar? (rest : List Char) : Option (Bytes × List Char) := do
  let (lead, rest) ← escapedByte? rest
  let (trail, rest) ← escapedTrail? (← trailLength? lead) rest
  return (lead :: trail, rest)

/-- The bytes that the characters of a tag write. -/
def unescape? : List Char → Option Bytes
  | [] => some []
  | c :: rest =>
    if c = '%' then
      match escapedChar? (c :: rest) with
      | some (bytes, after) =>
        if after.length ≤ rest.length then (unescape? after).map (bytes ++ ·) else none
      | none => none
    else (unescape? rest).map (String.utf8EncodeChar c ++ ·)
termination_by cs => cs.length

/-- What counts of the bytes of a tag: those before the first zero. -/
def beforeZero (bytes : Bytes) : Bytes :=
  bytes.takeWhile (· ≠ 0)

/-- Reads the characters of a tag. -/
def tagText? (verbatim : Bool) (cursor : Cursor) : Option (Bytes × Cursor) := do
  let (raw, cursor) := cursor.takeWhile (isTagChar verbatim)
  let text ← unescape? raw
  return (text, cursor)

/-- Reads a handle: `!`, `!!`, `!name!`, or the start of a tag that has none. -/
def handleText? (cursor : Cursor) : Option (List Char × Cursor) :=
  match cursor.rest with
  | '!' :: _ =>
    let (name, cursor) := (cursor.skip 1).takeWhile isNameChar
    if cursor.rest.head? = some '!' then some ('!' :: name ++ ['!'], cursor.skip 1)
    else some ('!' :: name, cursor)
  | _ => none

/-- Reads the parts of a tag: a handle and what follows it. A tag in angle brackets has no handle,
and a lone `!` is all suffix. -/
def tagParts? (cursor : Cursor) : Option (String × Bytes × Cursor) := do
  if (cursor.rest.drop 1).head? = some '<' then
    let (text, cursor) ← tagText? true (cursor.skip 2)
    if text ≠ [] && cursor.rest.head? = some '>' then
      return ("", beforeZero text, cursor.skip 1)
    else none
  else
    let (handle, cursor) ← handleText? cursor
    let (text, cursor) ← tagText? false cursor
    if 1 < handle.length && handle.getLast? = some '!' then
      if text = [] then none
      else return (String.ofList handle, beforeZero text, cursor)
    else
      let suffix := beforeZero (Text.utf8 handle.tail ++ text)
      return if suffix = [] then ("", Text.utf8 ['!'], cursor) else ("!", suffix, cursor)

/-- Reads a tag; a gap follows it, or inside brackets a comma. -/
def tagToken? (inFlow : Bool) (cursor : Cursor) : Option (Token × Cursor) := do
  let (handle, suffix, cursor) ← tagParts? cursor
  if atGap cursor.rest || (inFlow && cursor.rest.head? = some ',') then
    return (.tag handle suffix, cursor)
  else none

-- ========================================================= directives

/-- Reads one part of a version number. -/
def versionNumber? (cursor : Cursor) : Option (Nat × Cursor) :=
  let (digits, cursor) := cursor.takeWhile Char.isDigit
  if digits = [] || 9 < digits.length then none
  else some (digits.foldl (fun n c => 10 * n + (c.toNat - 48)) 0, cursor)

/-- Reads a directive after its percent sign, with the line it stands on. -/
def directive? (cursor : Cursor) : Option (Token × Cursor) := do
  let (name, cursor) := cursor.takeWhile isNameChar
  if name = [] || !atGap cursor.rest then none
  else
    let cursor := cursor.dropWhile isSpace
    let (token, cursor) ← (do
      if name = "YAML".toList then
        let (major, cursor) ← versionNumber? cursor
        if cursor.rest.head? ≠ some '.' then none
        else
          let (minor, cursor) ← versionNumber? (cursor.skip 1)
          return (Token.version major minor, cursor)
      else if name = "TAG".toList then
        let (handle, cursor) ← handleText? cursor
        let whole := handle = ['!'] || (1 < handle.length && handle.getLast? = some '!')
        if !whole || !cursor.rest.head?.any isSpace then none
        else
          let (uri, cursor) ← tagText? true (cursor.dropWhile isSpace)
          if uri = [] || !atGap cursor.rest then none
          else return (Token.tagHandle (String.ofList handle) (beforeZero uri), cursor)
      else none : Option (Token × Cursor))
    let cursor ← cursor.lineEnd?
    return (token, cursor.skip 1)

end ContractDocs.Yaml
