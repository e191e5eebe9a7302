/-
Two ways to write a JSON value: `compact` without any blanks, and `pretty`
with one item a line, two spaces deeper at each level. Strings escape the
quote, the backslash and the controls below space.
-/
import ContractDocs.Json.Basic
import ContractDocs.Text.Quoted

namespace ContractDocs.Json

/-- One character of a string. -/
def escapeChar (c : Char) : List Char :=
  if c = '"' then ['\\', '"']
  else if c = '\\' then ['\\', '\\']
  else if c = '\n' then ['\\', 'n']
  else if c = '\r' then ['\\', 'r']
  else if c = '\t' then ['\\', 't']
  else if c = '\x08' then ['\\', 'b']
  else if c = '\x0c' then ['\\', 'f']
  else if c.toNat < 0x20 then
    let digits := Text.hexDigits c.toNat
    ['\\', 'u'] ++ List.replicate (4 - digits.length) '0' ++ digits
  else [c]

/-- A string with its quotes. -/
def quoteString (s : String) : String :=
  String.ofList ('"' :: s.toList.flatMap escapeChar ++ ['"'])

/-- The text of a number. -/
def Number.text : Number → String
  | whole value => toString value
  | double negative value => value.text negative

/-- The text of a value that has no parts. -/
def scalarText : Json → String
  | null => "null"
  | bool true => "true"
  | bool false => "false"
  | number value => value.text
  | string value => quoteString value
  | list _ => "[]"
  | object _ => "\x7b\x7d"

mutual

/-- The value on one line, without blanks. -/
def compact : Json → String
  | list items => "[" ++ ",".intercalate (compactItems items) ++ "]"
  | object fields => "\x7b" ++ ",".intercalate (compactFields fields) ++ "\x7d"
  | value => scalarText value

/-- The items of a list, one text each. -/
def compactItems : List Json → List String
  | [] => []
  | item :: rest => compact item :: compactItems rest

/-- The fields of an object, one text each. -/
def compactFields : List (String × Json) → List String
  | [] => []
  | (key, value) :: rest => (quoteString key ++ ":" ++ compact value) :: compactFields rest

end

/-- A line end and the indentation of a level. -/
def newline (level : Nat) : String :=
  "\n" ++ String.ofList (List.replicate (2 * level) ' ')

mutual

/-- The value with one item a line; `level` is how deep it stands. -/
def prettyAt (level : Nat) : Json → String
  | list (item :: rest) =>
    "[" ++ newline (level + 1)
      ++ ("," ++ newline (level + 1)).intercalate (prettyItems (level + 1) (item :: rest))
      ++ newline level ++ "]"
  | object (field :: rest) =>
    "\x7b" ++ newline (level + 1)
      ++ ("," ++ newline (level + 1)).intercalate (prettyFields (level + 1) (field :: rest))
      ++ newline level ++ "\x7d"
  | value => scalarText value

/-- The items of a list, one text each. -/
def prettyItems (level : Nat) : List Json → List String
  | [] => []
  | item :: rest => prettyAt level item :: prettyItems level rest

/-- The fields of an object, one text each. -/
def prettyFields (level : Nat) : List (String × Json) → List String
  | [] => []
  | (key, value) :: rest =>
    (quoteString key ++ ": " ++ prettyAt level value) :: prettyFields level rest

end

/-- The value with one item a line. -/
def pretty (value : Json) : String :=
  prettyAt 0 value

end ContractDocs.Json
