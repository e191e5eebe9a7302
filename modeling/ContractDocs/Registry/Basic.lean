/-
The registry: every record in the order it was inserted, and the indexes
that look records up by kind, by contract and name, and by file. Records
are only ever added, so an identifier, once given, stays good until the
registry is cleared.

A second declaration in the same scope is stored like any other and
reported against the first (`ScopeKey`). Contract-like names share one scope
across all files; members are told apart by file, contract, kind and name,
and overloadable ones by their parameter types too.
-/
import Std.Data.HashMap
import ContractDocs.Registry.Query

namespace ContractDocs

-- ======================================================= scope keys

/-- What makes two declarations the same. -/
inductive ScopeKey where
  | global (name : String)
  | member (file : String) (contract : Option String) (kind : Kind) (name : Option String)
      (paramTypes : Option (List String))
deriving DecidableEq, Repr, Hashable

namespace ScopeKey

/-- The scope key of a record. -/
def ofRecord (record : Record) : ScopeKey :=
  if record.kind.isContractLike then .global (record.name.getD "")
  else .member record.file record.contract record.kind record.name record.paramTypes

end ScopeKey

-- ========================================================== indexes

/-- The identifiers filed under each key, in increasing order. -/
structure Postings (κ : Type) [BEq κ] [Hashable κ] where
  table : Std.HashMap κ (Array Nat) := {}

namespace Postings

variable {κ : Type} [BEq κ] [Hashable κ]

/-- The identifiers under a key; none when the key is unknown. -/
def under (postings : Postings κ) (key : κ) : Array Nat :=
  postings.table.getD key #[]

/-- Files an identifier under a key. -/
def file (postings : Postings κ) (key : κ) (id : Nat) : Postings κ :=
  ⟨postings.table.insert key ((postings.under key).push id)⟩

end Postings

-- ========================================================= registry

/-- Records in insertion order, with the indexes over them. -/
structure Registry where
  records : Array Record := #[]
  byKind : Postings Kind := {}
  byContractAndName : Postings (Option String × Option String) := {}
  byFile : Postings String := {}
  firsts : Std.HashMap ScopeKey Nat := {}

/-- The identifier of a new record, and the first record with the same scope key. -/
structure Inserted where
  id : Nat
  duplicateOf : Option Nat
deriving DecidableEq, Repr

namespace Registry

/-- A registry without records. -/
def empty : Registry := {}

instance : Inhabited Registry := ⟨empty⟩

/-- How many records there are. -/
def size (registry : Registry) : Nat :=
  registry.records.size

/-- The record with an identifier. -/
def get? (registry : Registry) (id : Nat) : Option Record :=
  registry.records[id]?

/-- The records in insertion order. -/
def toList (registry : Registry) : List Record :=
  registry.records.toList

/-- Adds a record at the end and to every index. -/
def insert (registry : Registry) (record : Record) : Registry × Inserted :=
  let id := registry.size
  let key := ScopeKey.ofRecord record
  let first := registry.firsts[key]?
  let next : Registry := {
    records := registry.records.push record
    byKind := registry.byKind.file record.kind id
    byContractAndName := registry.byContractAndName.file (record.contract, record.name) id
    byFile := registry.byFile.file record.file id
    firsts := if first.isSome then registry.firsts else registry.firsts.insert key id }
  (next, ⟨id, first⟩)

/-- Drops every record, and forgets it in every index. -/
def clear (registry : Registry) : Registry :=
  { registry with
    records := #[]
    byKind := {}
    byContractAndName := {}
    byFile := {}
    firsts := {} }

/-- The records with these identifiers. -/
def lookup (registry : Registry) (ids : Array Nat) : List Record :=
  ids.toList.filterMap registry.get?

/-- The records of a kind. -/
def ofKind (registry : Registry) (kind : Kind) : List Record :=
  registry.lookup (registry.byKind.under kind)

/-- The records with a name directly inside a contract; `none` asks for no contract, or for no
name. -/
def ofContractAndName (registry : Registry) (contract name : Option String) : List Record :=
  registry.lookup (registry.byContractAndName.under (contract, name))

/-- The records of a file. -/
def ofFile (registry : Registry) (file : String) : List Record :=
  registry.lookup (registry.byFile.under file)

/-- The records that match a query, in insertion order. The file index narrows the search
first, then the kind index; a query with neither looks at every record. -/
def select (registry : Registry) (query : Query) : List Record :=
  let candidates :=
    match query.file, query.kind with
    | some file, _ => registry.ofFile file
    | none, some kind => registry.ofKind kind
    | none, none => registry.toList
  candidates.filter query.accepts

/-- The members declared directly inside a contract, of one file or of any. -/
def membersOf (registry : Registry) (file : Option String) (contract : String) : List Record :=
  registry.select { file, contract := some (some contract) }

end Registry

end ContractDocs
