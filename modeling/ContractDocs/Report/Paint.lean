/-
Colours of terminal text. Painted text stands between the code of its
colour and the reset code; padding is painted with it, and a reset inside
the text is followed by the colour again.
-/
import ContractDocs.Text.Words

namespace ContractDocs

/-- How a piece of text is painted. -/
inductive Paint where
  | boldCyan
  | dim
  | red
  | green
  | yellow
  | blue
  | bold
deriving DecidableEq, Repr

namespace Paint

/-- The code that ends every colour. -/
def reset : String := "\x1b[0m"

/-- The code that starts a colour. -/
def code : Paint → String
  | boldCyan => "\x1b[1;36m"
  | dim => "\x1b[2m"
  | red => "\x1b[31m"
  | green => "\x1b[32m"
  | yellow => "\x1b[33m"
  | blue => "\x1b[34m"
  | bold => "\x1b[1m"

/-- Writes `again` behind every reset code of a text. -/
def afterResets (again : List Char) : List Char → List Char
  | '\x1b' :: '[' :: '0' :: 'm' :: rest =>
    '\x1b' :: '[' :: '0' :: 'm' :: again ++ afterResets again rest
  | c :: rest => c :: afterResets again rest
  | [] => []

/-- The text in a colour; as it is when colours are off. -/
def apply (paint : Paint) (colored : Bool) (text : String) : String :=
  if colored then
    paint.code ++ String.ofList (afterResets paint.code.toList text.toList) ++ reset
  else text

end Paint

/-- The text, filled up with spaces on the right. -/
def padRight (width : Nat) (text : String) : String :=
  text ++ String.ofList (List.replicate (width - text.length) ' ')

end ContractDocs
