/-
Options of a documented entry, and which members of a contract-like
declaration they select.
-/
import ContractDocs.Record
import ContractDocs.Text.Words

namespace ContractDocs

/-- Which members of a contract-like declaration are documented. -/
inductive MemberSelection where
  | none
  | all
  | only (names : List String)
deriving DecidableEq, Repr, Inhabited

namespace MemberSelection

/-- The selection that an option asks for: none without it, all when it holds no name. -/
def ofOption : Option (List String) → MemberSelection
  | Option.none => none
  | some names =>
    let names := (names.map Text.trimmed).filter (!·.isEmpty)
    if names.isEmpty then all else only names

end MemberSelection

/-- The word that selects the fallback function. -/
def fallbackWord : String := "<fallback>"

/-- The word that selects the constructor. -/
def constructorWord : String := "constructor"

/-- The word that excludes functions that are not visible from outside. -/
def privateWord : String := "<private>"

/-- Options of an entry, which its members share. -/
structure DocOptions where
  members : MemberSelection := .none
  /-- Document members without documentation too. -/
  undocMembers : Bool := false
  excludeMembers : List String := []
  noindex : Bool := false
deriving DecidableEq, Repr, Inhabited

namespace DocOptions

/-- A function without a name. -/
def isFallback (record : Record) : Bool :=
  record.kind = .function && record.name.isNone

/-- The member that a word selects. -/
def selects (word : String) (record : Record) : Bool :=
  if word = fallbackWord then isFallback record
  else if word = constructorWord then record.kind = .constructor
  else record.name = some word

/-- The member is one of those asked for. -/
def isWanted (options : DocOptions) (wantAll : Bool) (record : Record) : Bool :=
  wantAll || match options.members with
    | .only names => names.any (selects · record)
    | _ => false

/-- A function that a bare `public` or `external` does not make visible. -/
def isPrivate (record : Record) : Bool :=
  record.kind = .function && match record.parts with
    | .callable header => !header.isPublic
    | _ => false

/-- The member is one of those to leave out. A constructor is left out by its word, even when
it is named otherwise. -/
def isExcluded (options : DocOptions) (record : Record) : Bool :=
  let excluded (word : String) : Bool := options.excludeMembers.contains word
  (isFallback record && excluded fallbackWord)
    || (record.kind = .constructor && excluded constructorWord)
    || (record.kind ≠ .constructor && record.name.any excluded)
    || (excluded privateWord && isPrivate record)

/-- The member is documented. -/
def isSelected (options : DocOptions) (wantAll : Bool) (record : Record) : Bool :=
  options.isWanted wantAll record && !options.isExcluded record
    && (options.undocMembers || !record.doc.isEmpty)

end DocOptions

end ContractDocs
