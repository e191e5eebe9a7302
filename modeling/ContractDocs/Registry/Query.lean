/-
Queries select records by any combination of kind, name, file, contract and
parameter types. A part that is not set matches everything; a name or a
contract may be asked to be absent.
-/
import ContractDocs.Record

namespace ContractDocs

/-- What a record must satisfy; a part that is `none` is not asked for. -/
structure Query where
  kind : Option Kind := none
  /-- `some none` asks for a record without a name. -/
  name : Option (Option String) := none
  file : Option String := none
  /-- `some none` asks for a record outside any contract. -/
  contract : Option (Option String) := none
  paramTypes : Option (List String) := none
deriving DecidableEq, Repr, Inhabited

namespace Query

/-- An asked value agrees with the one at hand; what is not asked agrees with all. -/
def agrees {α : Type} [DecidableEq α] (asked : Option α) (value : α) : Bool :=
  match asked with
  | none => true
  | some wanted => value = wanted

/-- The record has everything the query asks for. -/
def accepts (query : Query) (record : Record) : Bool :=
  agrees query.kind record.kind
    && agrees query.name record.name
    && agrees query.file record.file
    && agrees query.contract record.contract
    && agrees (query.paramTypes.map some) record.paramTypes

end Query

end ContractDocs
