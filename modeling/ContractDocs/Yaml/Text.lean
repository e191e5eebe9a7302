/-
The characters of a YAML document: which are allowed, which end a line, and
where in the text a character stands. Every line break is one character
here; those that are written with a carriage return or as a next line are
line feeds already (`normalise`).
-/

namespace ContractDocs.Yaml

-- ========================================================= characters

/-- Whether a document may hold a character. -/
def isAllowed (c : Char) : Bool :=
  c = '\t' || c = '\n' || c = '\r' || (' ' ≤ c && c ≤ '~') || c = '\u0085'
    || ('\u00a0' ≤ c && c ≤ '\ufffd') || 0x10000 ≤ c.toNat

/-- A space or a tab. -/
def isSpace (c : Char) : Bool :=
  c = ' ' || c = '\t'

/-- A character that ends a line. -/
def isBreak (c : Char) : Bool :=
  c = '\n' || c = '\u2028' || c = '\u2029'

/-- A character of an anchor, a tag handle or a directive name. -/
def isNameChar (c : Char) : Bool :=
  c.isAlphanum || c = '_' || c = '-'

/-- Whether what follows is a space, the end of the line or the end of the text. -/
def atGap (rest : List Char) : Bool :=
  rest.head?.all fun c => isSpace c || isBreak c

/-- Whether what follows is the end of the line or of the text. -/
def atLineEnd (rest : List Char) : Bool :=
  rest.head?.all isBreak

/-- Whether what follows is `---` or `...` and a gap; at the start of a line these bound a
document. -/
def atDocumentMark : List Char → Bool
  | '-' :: '-' :: '-' :: rest | '.' :: '.' :: '.' :: rest => atGap rest
  | _ => false

/-- The text with a line feed for every line break but the line and the paragraph separator. -/
def normalise : List Char → List Char
  | '\r' :: '\n' :: rest => '\n' :: normalise rest
  | '\r' :: rest | '\u0085' :: rest => '\n' :: normalise rest
  | c :: rest => c :: normalise rest
  | [] => []

-- ============================================================== marks

/-- Where a character stands. -/
structure Mark where
  line : Nat := 0
  column : Nat := 0
  /-- How many bytes come before it. -/
  offset : Nat := 0
deriving DecidableEq, Repr, Inhabited

namespace Mark

/-- The mark behind a character. -/
def after (mark : Mark) (c : Char) : Mark :=
  if isBreak c then ⟨mark.line + 1, 0, mark.offset + c.utf8Size⟩
  else ⟨mark.line, mark.column + 1, mark.offset + c.utf8Size⟩

end Mark

/-- A point in a text: what follows it and where that is. -/
structure Cursor where
  rest : List Char
  mark : Mark := {}
deriving Repr, Inhabited

namespace Cursor

/-- The point behind the next `n` characters. -/
def skip : Nat → Cursor → Cursor
  | 0, cursor => cursor
  | n + 1, ⟨c :: rest, mark⟩ => skip n ⟨rest, mark.after c⟩
  | _ + 1, cursor => cursor

/-- The next characters that pass a test, and the point behind them. -/
def takeWhile (cursor : Cursor) (test : Char → Bool) : List Char × Cursor :=
  let taken := cursor.rest.takeWhile test
  (taken, cursor.skip taken.length)

/-- The point behind the next characters that pass a test. -/
def dropWhile (cursor : Cursor) (test : Char → Bool) : Cursor :=
  (cursor.takeWhile test).2

/-- The point behind spaces, tabs and a comment; none when something else stands on the line. -/
def lineEnd? (cursor : Cursor) : Option Cursor :=
  let cursor := cursor.dropWhile isSpace
  let cursor :=
    if cursor.rest.head? = some '#' then cursor.dropWhile (!isBreak ·) else cursor
  if atLineEnd cursor.rest then some cursor else none

end Cursor

end ContractDocs.Yaml
