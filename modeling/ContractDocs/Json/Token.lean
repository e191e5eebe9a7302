/-
JSON tokens. A token is a bracket, a separator, a string, or one of the
values that have no parts. Only the four ASCII blanks may stand between
tokens, strings hold no raw controls, and the halves of a surrogate pair
come together or not at all.
-/
import ContractDocs.Json.Basic
import ContractDocs.Text.Hex

namespace ContractDocs.Json

/-- A token. -/
inductive Token where
  | openList
  | closeList
  | openObject
  | closeObject
  | comma
  | colon
  | string (value : String)
  | scalar (value : Json)
deriving Repr, Inhabited

-- =========================================================== strings

/-- A character of a string, or a code unit written as `\u`. -/
inductive Piece where
  | char (c : Char)
  | unit (value : Nat)

/-- The character a one-letter escape stands for. -/
def shortEscape? : Char → Option Char
  | '"' => some '"'
  | '\\' => some '\\'
  | '/' => some '/'
  | 'b' => some '\x08'
  | 'f' => some '\x0c'
  | 'n' => some '\n'
  | 'r' => some '\r'
  | 't' => some '\t'
  | _ => none

/-- The pieces of a string up to its closing quote, and what follows it. -/
def stringPieces : List Char → Option (List Piece × List Char)
  | [] => none
  | '"' :: rest => some ([], rest)
  | '\\' :: 'u' :: a :: b :: c :: d :: rest =>
    match Text.hexNumber? [a, b, c, d], stringPieces rest with
    | some n, some (pieces, after) => some (.unit n :: pieces, after)
    | _, _ => none
  | '\\' :: e :: rest =>
    match shortEscape? e, stringPieces rest with
    | some c, some (pieces, after) => some (.char c :: pieces, after)
    | _, _ => none
  | c :: rest =>
    if c.toNat < 0x20 || c = '\\' then none
    else match stringPieces rest with
      | some (pieces, after) => some (.char c :: pieces, after)
      | none => none

/-- The characters of a string; fails at a surrogate without its other half. -/
def joinPieces : List Piece → Option (List Char)
  | [] => some []
  | .char c :: rest => (joinPieces rest).map (c :: ·)
  | .unit high :: .unit low :: rest =>
    if 0xD800 ≤ high && high ≤ 0xDBFF then
      if 0xDC00 ≤ low && low ≤ 0xDFFF then
        let point := 0x10000 + (high - 0xD800) * 0x400 + (low - 0xDC00)
        (joinPieces rest).map (Char.ofNat point :: ·)
      else none
    else if 0xDC00 ≤ high && high ≤ 0xDFFF then none
    else (joinPieces (.unit low :: rest)).map (Char.ofNat high :: ·)
  | .unit value :: rest =>
    if 0xD800 ≤ value && value ≤ 0xDFFF then none
    else (joinPieces rest).map (Char.ofNat value :: ·)

/-- A string leaves less text than it was given. -/
theorem length_of_stringPieces {text rest : List Char} {pieces : List Piece}
    (h : stringPieces text = some (pieces, rest)) : rest.length < text.length := by
  fun_induction stringPieces text generalizing pieces rest with
  | case1 => simp at h
  | case2 => simp_all
  | case3 a b c d more n ps after hmore _ ih =>
    have := ih hmore
    simp_all
    omega
  | case4 => simp at h
  | case5 e more _ c ps after hmore _ ih =>
    have := ih hmore
    simp_all
    omega
  | case6 => simp at h
  | case7 => simp_all
  | case8 c more _ _ _ hc ps after hmore ih =>
    have := ih hmore
    simp_all
    omega
  | case9 => simp at h

-- =========================================================== numbers

/-- The number that decimal digits write. -/
def decimalNumber (digits : List Char) : Nat :=
  digits.foldl (fun n c => 10 * n + (c.toNat - '0'.toNat)) 0

/-- Digits and the signs and letters that may stand between them. -/
def isNumberChar (c : Char) : Bool :=
  c.isDigit || c = '+' || c = '-' || c = '.' || c = 'e' || c = 'E'

/-- The exponent after the digits, zero when there is none. -/
def readExponent? : List Char → Option Int
  | [] => some 0
  | e :: rest =>
    if e = 'e' || e = 'E' then
      let (negative, digits) := match rest with
        | '-' :: digits => (true, digits)
        | '+' :: digits => (false, digits)
        | digits => (false, digits)
      if digits.isEmpty || !digits.all Char.isDigit then none
      else
        let n : Int := decimalNumber digits
        some (if negative then -n else n)
    else none

/-- Reads a whole lexeme as a number. Whole numbers of 64 bits stay whole; minus zero, larger
numbers and those with a fraction or an exponent are doubles, and one too large for a double
is refused. -/
def readNumber? (lexeme : List Char) : Option Number := do
  let (negative, body) := match lexeme with
    | '-' :: body => (true, body)
    | body => (false, body)
  let whole := body.takeWhile Char.isDigit
  guard (!whole.isEmpty && (whole.length = 1 || whole.head? ≠ some '0'))
  let rest := body.dropWhile Char.isDigit
  let (fraction, rest, pointed) := match rest with
    | '.' :: after => (after.takeWhile Char.isDigit, after.dropWhile Char.isDigit, true)
    | after => ([], after, false)
  guard (!pointed || !fraction.isEmpty)
  let exponent ← readExponent? rest
  let n := decimalNumber whole
  if !pointed && rest.isEmpty then
    if !negative && n < Nat.pow 2 64 then return .whole n
    if negative && n ≠ 0 && n ≤ Nat.pow 2 63 then return .whole (-(n : Int))
  let value ← Decimal.Binary64.ofScaled?
    ⟨decimalNumber (whole ++ fraction), exponent - fraction.length⟩
  return .double negative value

-- ============================================================ tokens

/-- The values that are words. -/
def wordValue? (word : List Char) : Option Json :=
  if word = ['n', 'u', 'l', 'l'] then some null
  else if word = ['t', 'r', 'u', 'e'] then some (bool true)
  else if word = ['f', 'a', 'l', 's', 'e'] then some (bool false)
  else none

/-- The tokens of a text, or nothing when some part of it is none. -/
def tokens? (text : List Char) : Option (List Token) :=
  match text with
  | [] => some []
  | c :: rest =>
    if c = ' ' || c = '\n' || c = '\t' || c = '\r' then tokens? rest
    else if c = '[' then (tokens? rest).map (.openList :: ·)
    else if c = ']' then (tokens? rest).map (.closeList :: ·)
    else if c = '\x7b' then (tokens? rest).map (.openObject :: ·)
    else if c = '\x7d' then (tokens? rest).map (.closeObject :: ·)
    else if c = ',' then (tokens? rest).map (.comma :: ·)
    else if c = ':' then (tokens? rest).map (.colon :: ·)
    else if c = '"' then
      match _h : stringPieces rest with
      | some (pieces, after) =>
        match joinPieces pieces, tokens? after with
        | some value, some others => some (.string (String.ofList value) :: others)
        | _, _ => none
      | none => none
    else if isNumberChar c && c ≠ 'e' && c ≠ 'E' then
      match readNumber? (c :: rest.takeWhile isNumberChar),
          tokens? (rest.dropWhile isNumberChar) with
      | some value, some others => some (.scalar (.number value) :: others)
      | _, _ => none
    else
      match wordValue? (c :: rest.takeWhile Char.isAlpha),
          tokens? (rest.dropWhile Char.isAlpha) with
      | some value, some others => some (.scalar value :: others)
      | _, _ => none
termination_by text.length
decreasing_by
  all_goals try
    have := (List.dropWhile_sublist isNumberChar :
      (rest.dropWhile isNumberChar).Sublist rest).length_le
  all_goals try
    have := (List.dropWhile_sublist Char.isAlpha :
      (rest.dropWhile Char.isAlpha).Sublist rest).length_le
  all_goals try have := length_of_stringPieces _h
  all_goals simp only [List.length_cons]
  all_goals omega

end ContractDocs.Json
