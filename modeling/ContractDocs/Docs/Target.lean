/-
Targets name a declaration to document: `[file:]Contract.name(types)` for
functions and events, `[file:]Contract.name` for other members, and
`[file:]Name` for contracts, libraries and interfaces. An empty name after
the point is the fallback function.
-/
import ContractDocs.Registry.Query
import ContractDocs.Signature.Grouping

namespace ContractDocs

open Text Grouping

/-- The parts of a target. -/
structure Target where
  file : Option String := none
  contract : Option String := none
  name : Option String := none
  /-- The parameter types between parentheses, when the target has them. -/
  paramTypes : Option (List String) := none
deriving DecidableEq, Repr, Inhabited

namespace Target

/-- The trimmed text, when it holds anything. -/
def part? (text : List Char) : Option String :=
  let text := trim text
  if text.isEmpty then none else some (String.ofList text)

/-- The overload type that one entry of a type list names: a location keyword after the last
space is a location and not part of the type. -/
def overloadType (entry : List Char) : String :=
  let plain := Param.ofText (String.ofList entry) none none
  let param := match cutLast ' ' entry with
    | some (type, last) =>
      if locationKeywords.contains (String.ofList last) then
        Param.ofText (String.ofList type) (some (String.ofList last)) none
      else plain
    | none => plain
  param.overloadType

/-- The overload types of a list, whose closing parenthesis may be missing. -/
def readTypes (text : List Char) : List String :=
  let list := trim text
  let list := if list.getLast? = some ')' then list.dropLast else list
  (splitTopLevelChars list).map overloadType

/-- The name and the types after the point. -/
def readMember (text : List Char) : Option String × Option (List String) :=
  match cutFirst '(' text with
  | some (name, types) => (part? name, some (readTypes types))
  | none => (part? text, none)

/-- Reads a target of a kind. The last colon ends the file, the first point the contract. A
bare name is the name of a contract-like declaration, and the contract of any other. -/
def read (kind : Kind) (text : String) : Target :=
  let (file, path) := match cutLast ':' text.toList with
    | some (file, path) => (part? file, path)
    | none => (none, text.toList)
  let (contract, name, paramTypes) := match cutFirst '.' path with
    | some (contract, member) => (part? contract, readMember member)
    | none => (part? path, none, none)
  if kind.isContractLike && name.isNone then ⟨file, none, contract, paramTypes⟩
  else ⟨file, contract, name, paramTypes⟩

/-- The target as it is written. -/
def render (target : Target) : String :=
  (match target.file with
    | some file => file ++ ":"
    | none => "")
  ++ (match target.contract with
    | some contract => contract ++ "."
    | none => "")
  ++ target.name.getD ""
  ++ (match target.paramTypes with
    | some types => "(" ++ ",".intercalate types ++ ")"
    | none => "")

/-- The query for the declarations a target names. The name is always asked for; a contract
only when the target has one. -/
def query (target : Target) (kind : Kind) : Query :=
  { kind := some kind
    name := some target.name
    file := target.file
    contract := target.contract.map some
    paramTypes := target.paramTypes }

end Target

end ContractDocs
