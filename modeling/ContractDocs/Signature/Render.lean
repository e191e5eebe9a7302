/-
Canonical headers. Types come first, then locations and names, each after
one space; lists are joined by a comma and a space; `returns` stands last.
-/
import ContractDocs.Signature.Basic

namespace ContractDocs

/-- ` word` when there is one. -/
def spaced : Option String → String
  | some word => " " ++ word
  | none => ""

namespace Param

/-- `type location name`, without what is absent. -/
def render (param : Param) : String :=
  param.typeName ++ spaced param.location ++ spaced param.name

/-- A parameter list with its parentheses. -/
def renderList (params : List Param) : String :=
  "(" ++ ", ".intercalate (params.map render) ++ ")"

end Param

namespace Modifier

/-- `word`, or `name(arg, arg)`. -/
def render : Modifier → String
  | word text => text
  | call name args => name ++ "(" ++ ", ".intercalate args ++ ")"

end Modifier

namespace TypeHeader

/-- `Name`, or `Name is A, B`. -/
def render (header : TypeHeader) : String :=
  match header.bases with
  | [] => header.name
  | bases => header.name ++ " is " ++ ", ".intercalate bases

end TypeHeader

namespace VariableHeader

/-- `type modifiers name`. -/
def render (header : VariableHeader) : String :=
  " ".intercalate (header.typeName :: header.modifiers ++ [header.name])

end VariableHeader

namespace CallableHeader

/-- `name(params) modifiers returns (params)`, without what is absent. -/
def render (header : CallableHeader) : String :=
  header.name.getD "" ++ Param.renderList header.params
    ++ String.join (header.modifiers.map fun m => " " ++ m.render)
    ++ match header.returns with
      | some params => " returns " ++ Param.renderList params
      | none => ""

end CallableHeader

namespace Signature

/-- The canonical header. -/
def render : Signature → String
  | typeLike header => header.render
  | stateVar header => header.render
  | callable header => header.render

end Signature

end ContractDocs
