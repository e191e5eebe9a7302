/-
Declarations in a syntax tree: which nodes declare something, and how the
parts of a header are read from the node. The grammar has already accepted
these nodes, so nothing is checked here; a piece that error recovery left
out makes the header unreadable.
-/
import ContractDocs.Record
import ContractDocs.Signature.Grouping
import ContractDocs.Source.Node

namespace ContractDocs

open Text Grouping

namespace Node

/-- The kind of declaration a node is. -/
def declares? (node : Node) : Option Kind :=
  match node.kind with
  | "contract_declaration" => some .contract
  | "library_declaration" => some .library
  | "interface_declaration" => some .interface
  | "state_variable_declaration" => some .stateVar
  | "constructor_definition" => some .constructor
  | "function_definition" => some .function
  | "fallback_receive_definition" => some .function
  | "modifier_definition" => some .modifier
  | "event_definition" => some .event
  | "struct_declaration" => some .struct
  | "enum_declaration" => some .enum
  | _ => none

end Node

namespace Modifier

/-- Reads `name` or `name(a, b)` from text that the grammar accepted: the arguments stand
between the first opening and the last closing parenthesis. -/
def ofText (text : String) : Modifier :=
  match cutFirst '(' text.toList with
  | some (before, after) =>
    match cutLast ')' after with
    | some (inside, _) =>
      .call (String.ofList (words before).flatten)
        ((splitTopLevelChars inside).map String.ofList)
    | none => .word (String.ofList (collapse text.toList))
  | none => .word (String.ofList (collapse text.toList))

end Modifier

namespace Source

variable (source : Source)

/-- The text of a node with its blanks collapsed. -/
def collapsedText (node : Node) : String :=
  String.ofList (collapse (source.text node).toList)

/-- The trimmed text of a field, when it holds any. -/
def fieldText? (node : Node) (field : String) : Option String :=
  match node.child? field with
  | some child =>
    let text := trimmed (source.text child)
    if text.isEmpty then none else some text
  | none => none

-- ==================================================== type headers

/-- The name of a base, without the arguments of its constructor. -/
def baseName? (specifier : Node) : Option String :=
  let ancestor := (specifier.child? "ancestor").getD specifier
  let text := collapse (source.text ancestor).toList
  let name := trim (text.takeWhile (· ≠ '('))
  if name.isEmpty then none else some (String.ofList name)

/-- The heading of a contract, library or interface. -/
def typeHeader? (node : Node) : Option TypeHeader :=
  (source.fieldText? node "name").map fun name =>
    ⟨name, (node.namedChildren.filter (·.kind == "inheritance_specifier")).filterMap
      source.baseName?⟩

-- ================================================= state variables

/-- The nodes between the type and the name of a state variable, comments left out. -/
def modifierNodes (type name : Node) (children : List Node) : List Node :=
  ((children.filter (type.stop ≤ ·.start)).takeWhile (·.start < name.start)).filter
    (·.kind != "comment")

/-- The line of a state variable. -/
def variableHeader? (node : Node) : Option VariableHeader :=
  match node.child? "type", node.child? "name" with
  | some type, some name =>
    some {
      typeName := TypeName.canonical (source.text type)
      modifiers := (modifierNodes type name node.children).map source.collapsedText
      name := source.text name }
  | _, _ => none

-- ======================================================= callables

/-- Words that say where a parameter lives. -/
def paramLocations : List String :=
  ["memory", "storage", "calldata", "indexed"]

/-- One parameter; without a type there is none. -/
def param? (node : Node) : Option Param :=
  (node.child? "type").map fun type =>
    { typeName := TypeName.canonical (source.text type)
      location := match node.child? "location" with
        | some location => some (source.text location)
        | none => (node.children.map source.text).find? paramLocations.contains
      name := (node.child? "name").map source.text }

/-- The parameters directly below a node. -/
def params (node : Node) : List Param :=
  (node.namedChildren.filter fun child =>
    child.kind == "parameter" || child.kind == "event_parameter").filterMap source.param?

/-- The name of a callable; the fallback function has none. -/
def callableName? (node : Node) : Option String :=
  match node.kind with
  | "constructor_definition" => some "constructor"
  | "fallback_receive_definition" =>
    if node.children.any fun child => !child.named && source.text child == "receive" then
      some "receive"
    else none
  | _ => source.fieldText? node "name"

/-- Words that may stand as plain tokens in a header. -/
def headerKeywords : List String :=
  ["public", "private", "internal", "external", "pure", "view", "payable", "virtual", "override",
    "constant", "immutable", "anonymous"]

/-- The modifier a child of a callable stands for. -/
def modifier? (child : Node) : Option Modifier :=
  match child.kind with
  | "return_type_definition" => none
  | "modifier_invocation" | "override_specifier" => some (.ofText (source.text child))
  | "visibility" | "state_mutability" | "virtual" | "constant" | "immutable" =>
    some (.word (source.collapsedText child))
  | _ =>
    let text := source.text child
    if !child.named && headerKeywords.contains text then some (.word text) else none

/-- The children of a callable other than the one that names it. -/
def unnamingChildren (node : Node) : List Node :=
  node.children.eraseP (·.field == some "name")

/-- The heading of a constructor, function, modifier or event. Only functions may lack a
name; of several return lists the last one counts. -/
def callableHeader? (node : Node) : Option CallableHeader :=
  let name := source.callableName? node
  let nameless := node.kind == "function_definition" || node.kind == "fallback_receive_definition"
  if name.isNone && !nameless then none
  else
    let children := unnamingChildren node
    let returnNodes := children.filter (·.kind == "return_type_definition")
    some {
      name
      params := source.params node
      modifiers := children.filterMap source.modifier?
      returns := returnNodes.getLast?.map source.params }

-- ==================================================== declarations

/-- The parts of the header of a declaration node. -/
def signature? (node : Node) : Kind → Option Signature
  | .contract | .library | .interface => (source.typeHeader? node).map .typeLike
  | .struct | .enum => (source.fieldText? node "name").map fun name => .typeLike ⟨name, []⟩
  | .stateVar => (source.variableHeader? node).map .stateVar
  | .constructor | .function | .modifier | .event => (source.callableHeader? node).map .callable

/-- The named children, with those of a body in the place of the body. -/
def bodyChildren (bodyKind : String) (node : Node) : List Node :=
  node.namedChildren.flatMap fun child =>
    if child.kind == bodyKind then child.namedChildren else [child]

/-- A struct field; it needs a type and a name. -/
def structField? (node : Node) : Option Member :=
  match node.child? "type", node.child? "name" with
  | some type, some name =>
    some ⟨some (TypeName.canonical (source.text type)), source.text name⟩
  | _, _ => none

/-- The fields of a struct or the values of an enum. -/
def members (node : Node) : Kind → List Member
  | .struct =>
    ((bodyChildren "struct_body" node).filter (·.kind == "struct_member")).filterMap
      source.structField?
  | .enum =>
    ((bodyChildren "enum_body" node).filter (·.kind == "enum_value")).map fun value =>
      ⟨none, trimmed (source.text value)⟩
  | _ => []

end Source

end ContractDocs
