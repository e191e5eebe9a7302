/-
Records: one declaration of a source file, as the index keeps it. What is
stored is where the declaration stands and the parts of its header; its
name, types, canonical signature and identifiers are read off those parts.
-/
import ContractDocs.Kind
import ContractDocs.Signature.Render

namespace ContractDocs

/-- A struct field or an enum value; only fields have a type. -/
structure Member where
  typeName : Option String
  name : String
deriving DecidableEq, Repr, Inhabited

/-- A declaration of a source file. -/
structure Record where
  kind : Kind
  /-- Path of the file, relative to the lookup root. -/
  file : String
  parts : Signature
  /-- Line of the declaration, counted from one. -/
  line : Nat
  /-- The contract, library or interface around the declaration. -/
  contract : Option String := none
  /-- Documentation text, empty when there is none. -/
  doc : String := ""
  members : List Member := []
deriving DecidableEq, Repr, Inhabited

namespace Record

/-- The canonical signature. -/
def signature (record : Record) : String :=
  record.parts.render

/-- The declared name; the fallback function has none. -/
def name (record : Record) : Option String :=
  record.parts.name

/-- The type of a state variable. -/
def valueType (record : Record) : Option String :=
  record.parts.valueType

/-- The parameter types of a kind that may be overloaded. -/
def paramTypes (record : Record) : Option (List String) :=
  if record.kind.isOverloadable then record.parts.paramTypes else none

/-- `Contract.name`, or the name alone outside a contract. -/
def qualifiedName (record : Record) : String :=
  let name := record.name.getD "<fallback>"
  match record.contract with
  | some contract => contract ++ "." ++ name
  | none => name

/-- The identifier that targets use: the qualified name, with the parameter types of a kind
that may be overloaded. -/
def targetId (record : Record) : String :=
  match record.paramTypes with
  | some types => record.qualifiedName ++ "(" ++ ",".intercalate types ++ ")"
  | none => record.qualifiedName

/-- `file:line`. -/
def location (record : Record) : String :=
  record.file ++ ":" ++ toString record.line

/-- What generated lines are said to come from. -/
def sourceName (record : Record) : String :=
  record.file ++ ":docstring of " ++ record.kind.name ++ " " ++ record.qualifiedName

end Record

end ContractDocs
