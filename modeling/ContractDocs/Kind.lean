/-
The kinds of declaration the index knows, with the words each is written
by: its name in directives and targets, the role that refers to it, and
the label that messages use.
-/

namespace ContractDocs

/-- A kind of declaration. -/
inductive Kind where
  | contract
  | library
  | interface
  | stateVar
  | constructor
  | function
  | modifier
  | event
  | struct
  | enum
deriving DecidableEq, Repr, Hashable, Inhabited

namespace Kind

/-- Every kind, in the order they are listed. -/
def all : List Kind :=
  [contract, library, interface, stateVar, constructor, function, modifier, event, struct, enum]

/-- The word for a kind in directives and targets. -/
def name : Kind → String
  | contract => "contract"
  | library => "library"
  | interface => "interface"
  | stateVar => "statevar"
  | constructor => "constructor"
  | function => "function"
  | modifier => "modifier"
  | event => "event"
  | struct => "struct"
  | enum => "enum"

/-- The kind with exactly this name. -/
def ofName? (text : String) : Option Kind :=
  all.find? (·.name == text)

/-- The kind with this name, however its letters are cased. The names are plain ASCII without
a `k`, so no letter outside ASCII lowers into one of them. -/
def ofText? (text : String) : Option Kind :=
  ofName? (String.ofList (text.toList.map Char.toLower))

/-- The cross-reference role that names a declaration of this kind. -/
def role : Kind → String
  | contract => "contract"
  | library => "lib"
  | interface => "interface"
  | stateVar => "svar"
  | constructor => "cons"
  | function => "func"
  | modifier => "mod"
  | event => "event"
  | struct => "struct"
  | enum => "enum"

/-- The words for a kind in messages. -/
def label : Kind → String
  | stateVar => "state variable"
  | kind => kind.name

/-- Contracts, libraries and interfaces: the kinds that open a scope. -/
def isContractLike : Kind → Bool
  | contract | library | interface => true
  | _ => false

/-- Kinds whose declarations may share a name when their parameter types differ. -/
def isOverloadable : Kind → Bool
  | function | event => true
  | _ => false

/-- The place of a kind in `all`. -/
def position (kind : Kind) : Nat :=
  all.idxOf kind

theorem ofName?_name (kind : Kind) : ofName? kind.name = some kind := by
  cases kind <;> decide

end Kind

end ContractDocs
