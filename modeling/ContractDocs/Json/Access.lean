/-
Looking into JSON values. A missing field and a null field are the same
thing to every accessor but `has`.
-/
import ContractDocs.Json.Basic

namespace ContractDocs.Json

/-- The object has the key, whatever its value. -/
def has (json : Json) (key : String) : Bool :=
  match json with
  | object fields => fields.any (·.1 == key)
  | _ => false

/-- The value of a field, unless it is missing or null. -/
def get? (json : Json) (key : String) : Option Json :=
  match json with
  | object fields =>
    match fields.find? (·.1 == key) with
    | some (_, null) => none
    | some (_, value) => some value
    | none => none
  | _ => none

/-- A string. -/
def string? : Json → Option String
  | string text => some text
  | _ => none

/-- A number that is whole and not negative. -/
def nat? : Json → Option Nat
  | number (.whole (.ofNat n)) => some n
  | _ => none

/-- The items of a list, none of any other value. -/
def items : Json → List Json
  | list items => items
  | _ => []

/-- The strings of a list. -/
def strings (json : Json) : List String :=
  json.items.filterMap string?

/-- A string field, when there is one. -/
def getString? (json : Json) (key : String) : Option String :=
  (json.get? key).bind string?

/-- A string field, empty when there is none. -/
def getString (json : Json) (key : String) : String :=
  (json.getString? key).getD ""

/-- A number field, zero when there is none. -/
def getNat (json : Json) (key : String) : Nat :=
  ((json.get? key).bind nat?).getD 0

/-- A flag field, off when there is none. -/
def getBool (json : Json) (key : String) : Bool :=
  match json.get? key with
  | some (bool value) => value
  | _ => false

/-- The items of a list field, none when there is none. -/
def getItems (json : Json) (key : String) : List Json :=
  ((json.get? key).map items).getD []

/-- The strings of a list field, none when there is none. -/
def getStrings (json : Json) (key : String) : List String :=
  ((json.get? key).map strings).getD []

end ContractDocs.Json
