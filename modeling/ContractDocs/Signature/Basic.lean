/-
The parts of a declaration header. A header is the heading of a contract,
library, interface, struct or enum, the line of a state variable, or a
callable: constructor, function, modifier or event.
-/
import ContractDocs.Signature.TypeName

namespace ContractDocs

/-- Words that may stand between a type and a name. -/
def locationKeywords : List String :=
  ["public", "private", "internal", "storage", "memory", "calldata", "indexed"]

/-- Words that stand after a parameter list and never take arguments. -/
def bareKeywords : List String :=
  ["public", "private", "external", "internal", "pure", "view", "payable", "anonymous", "virtual"]

/-- One entry of a parameter or return list. -/
structure Param where
  typeName : String
  location : Option String
  name : Option String
deriving DecidableEq, Repr, Inhabited

namespace Param

/-- A parameter with its type in canonical spelling. -/
def ofText (typeText : String) (location name : Option String) : Param :=
  ⟨TypeName.canonical typeText, location, name⟩

/-- The type that tells overloads apart: a storage reference keeps its location, and any other
location is left out. -/
def overloadType (param : Param) : String :=
  if param.location = some "storage" then param.typeName ++ " storage" else param.typeName

end Param

/-- A word after the parameter list: a bare one, or one with arguments. -/
inductive Modifier where
  | word (text : String)
  | call (name : String) (args : List String)
deriving DecidableEq, Repr, Inhabited

namespace Modifier

/-- The word itself, without arguments. -/
def name : Modifier → String
  | word text => text
  | call name _ => name

end Modifier

/-- The heading of a contract, library, interface, struct or enum. -/
structure TypeHeader where
  name : String
  bases : List String
deriving DecidableEq, Repr, Inhabited

/-- The line of a state variable. -/
structure VariableHeader where
  typeName : String
  modifiers : List String
  name : String
deriving DecidableEq, Repr, Inhabited

/-- The heading of a constructor, function, modifier or event. The fallback function has no
name. -/
structure CallableHeader where
  name : Option String
  params : List Param
  modifiers : List Modifier
  returns : Option (List Param)
deriving DecidableEq, Repr, Inhabited

namespace CallableHeader

/-- The parameter types that tell overloads apart, in order. -/
def paramTypes (header : CallableHeader) : List String :=
  header.params.map Param.overloadType

/-- Whether a bare `public` or `external` makes the callable visible from outside. -/
def isPublic (header : CallableHeader) : Bool :=
  header.modifiers.any fun m => m = .word "public" || m = .word "external"

end CallableHeader

/-- The parts of a declaration header. -/
inductive Signature where
  | typeLike (header : TypeHeader)
  | stateVar (header : VariableHeader)
  | callable (header : CallableHeader)
deriving DecidableEq, Repr, Inhabited

namespace Signature

/-- The declared name; only a callable may lack one. -/
def name : Signature → Option String
  | typeLike header => some header.name
  | stateVar header => some header.name
  | callable header => header.name

/-- The type of a state variable. -/
def valueType : Signature → Option String
  | stateVar header => some header.typeName
  | _ => none

/-- The overload types of a callable. -/
def paramTypes : Signature → Option (List String)
  | callable header => some header.paramTypes
  | _ => none

end Signature

end ContractDocs
