/-
Slots: what a parameter or a state variable line holds, `type [location]
[name]`. Nothing but blanks and word boundaries separates the three, so the
type is the shortest text, at least one character long, after which the
rest reads as an optional location keyword and an optional name.
-/
import ContractDocs.Signature.Basic

namespace ContractDocs

open Text

/-- The text of a type, with the location and the name that follow it. -/
structure Slot where
  typeText : List Char
  location : Option String
  name : Option String
deriving DecidableEq, Repr

namespace Slot

/-- Characters of a type. -/
def isTypeChar (c : Char) : Bool :=
  isWord c || isBlank c || c = '[' || c = ']' || c = '(' || c = ')' || c = '=' || c = '>'

/-- The location keyword a text starts with, and what follows it. -/
def locationAt (text : List Char) : Option (String × List Char) :=
  locationKeywords.findSome? fun keyword =>
    (afterLead keyword.toList text).map fun rest => (keyword, rest)

/-- Reads an optional name up to the end of the text. A name that follows a word character
directly would only continue that word, so it needs a blank before it. -/
def nameAtEnd (afterWord : Bool) (text : List Char) : Option (Option String) :=
  match trimStart text with
  | [] => some none
  | c :: rest =>
    let body := c :: rest
    if (afterWord && !(text.head?.any isBlank)) || !isWord c then none
    else if isBlankText (body.dropWhile isWord) then
      some (some (String.ofList (body.takeWhile isWord)))
    else none

/-- Reads an optional location keyword and an optional name up to the end of the text; a
keyword is taken where one can be. -/
def suffixAtEnd (afterWord : Bool) (text : List Char) :
    Option (Option String × Option String) :=
  let bounded := !afterWord || text.head?.any isBlank
  let withKeyword : Option (Option String × Option String) :=
    if bounded then
      (locationAt (trimStart text)).bind fun (keyword, rest) =>
        (nameAtEnd true rest).map fun name => (some keyword, name)
    else none
  withKeyword <|> (nameAtEnd afterWord text).map fun name => (none, name)

/-- Lets the type grow, one character at a time, until the rest reads as its suffix. `before`
is the type so far without its last character, latest character first. -/
def grow (before : List Char) (last : Char) : List Char → Option Slot
  | [] => if isTypeChar last then some ⟨(last :: before).reverse, none, none⟩ else none
  | c :: rest =>
    if isTypeChar last then
      match suffixAtEnd (isWord last) (c :: rest) with
      | some (location, name) => some ⟨(last :: before).reverse, location, name⟩
      | none => grow (last :: before) c rest
    else none

/-- Reads a slot. A text of blanks alone is a slot with an empty type. -/
def read (text : List Char) : Option Slot :=
  match trimStart text with
  | [] => if text.isEmpty then none else some ⟨[], none, none⟩
  | c :: rest => grow [] c rest

end Slot

namespace Param

/-- Reads a parameter. -/
def read (text : String) : Option Param :=
  (Slot.read text.toList).map fun slot =>
    ofText (String.ofList slot.typeText) slot.location slot.name

end Param

end ContractDocs
