/-
JSON values. Objects keep their fields in the order of first appearance,
and a repeated key takes its last value.
-/
import ContractDocs.Decimal.Notation

namespace ContractDocs

/-- A number is whole, or a double. -/
inductive Json.Number where
  | whole (value : Int)
  | double (negative : Bool) (value : Decimal.Binary64)
deriving DecidableEq, Repr

/-- A JSON value. -/
inductive Json where
  | null
  | bool (value : Bool)
  | number (value : Json.Number)
  | string (value : String)
  | list (items : List Json)
  | object (fields : List (String × Json))
deriving Repr, Inhabited

namespace Json

/-- Sets a field: a new key goes to the end, a known one keeps its place. -/
def setField (fields : List (String × Json)) (key : String) (value : Json) :
    List (String × Json) :=
  if fields.any (·.1 == key) then
    fields.map fun field => if field.1 == key then (key, value) else field
  else fields ++ [(key, value)]

/-- A whole number. -/
def ofNat (n : Nat) : Json :=
  number (.whole n)

/-- A list of strings. -/
def ofStrings (items : List String) : Json :=
  list (items.map string)

/-- A string, or null. -/
def ofString? : Option String → Json
  | some text => string text
  | none => null

end Json

end ContractDocs
