/-
Declarations and diagnostics as JSON. Fields stand in a fixed order; a
field that has nothing to say is left out where the form says so, and null
elsewhere.
-/
import ContractDocs.Diagnostic
import ContractDocs.Json.Basic
import ContractDocs.Record

namespace ContractDocs

open Json

/-- A field that is left out when there is no value. -/
def optionalField (key : String) (value : Option String) : List (String × Json) :=
  (value.map fun text => (key, string text)).toList

/-- `type_name`, with `location` and `name` when there are any. -/
def Param.toJson (param : Param) : Json :=
  object (("type_name", string param.typeName)
    :: optionalField "location" param.location ++ optionalField "name" param.name)

/-- A bare word, or a call with its arguments. -/
def Modifier.toJson : Modifier → Json
  | .word text => object [("keyword", string text)]
  | .call name args =>
    object [("call", object [("name", string name), ("args", ofStrings args)])]

/-- The parts of a header; `shape` tells the three forms apart. -/
def Signature.toJson : Signature → Json
  | .typeLike header =>
    object [("shape", string "type_like"), ("name", string header.name),
      ("bases", ofStrings header.bases)]
  | .stateVar header =>
    object [("shape", string "variable"), ("type_name", string header.typeName),
      ("modifiers", ofStrings header.modifiers), ("name", string header.name)]
  | .callable header =>
    object [("shape", string "callable"), ("name", ofString? header.name),
      ("params", list (header.params.map Param.toJson)),
      ("modifiers", list (header.modifiers.map Modifier.toJson)),
      ("returns", match header.returns with
        | some params => list (params.map Param.toJson)
        | none => null)]

/-- A struct field or an enum value. -/
def Member.toJson (member : Member) : Json :=
  object (optionalField "type_name" member.typeName ++ [("name", string member.name)])

/-- A record with everything that is read off its parts. -/
def Record.toJson (record : Record) : Json :=
  object (
    [("kind", string record.kind.name), ("source_file", string record.file),
      ("signature", string record.signature), ("parts", record.parts.toJson),
      ("name", ofString? record.name)]
    ++ optionalField "value_type" record.valueType
    ++ (record.paramTypes.map fun types => ("param_types", ofStrings types)).toList
    ++ [("enclosing_contract", ofString? record.contract), ("documentation", string record.doc)]
    ++ (if record.members.isEmpty then []
        else [("members", list (record.members.map Member.toJson))])
    ++ [("line", ofNat record.line)])

/-- A diagnostic; without a place its line is zero. -/
def Diagnostic.toJson (d : Diagnostic) : Json :=
  object (
    [("severity", string d.severity.name), ("message", string d.message)]
    ++ optionalField "file" (d.place.map Place.file)
    ++ [("line", ofNat ((d.place.map Place.line).getD 0))])

end ContractDocs
