/-
The walk of a syntax tree, which records the declarations of one file from
top to bottom. It goes below nodes that declare nothing and below
contract-like declarations; every other declaration is a leaf.

The grammar has no contract inside a contract. Such text survives error
recovery as an ERROR node or as a state variable whose type is the word
`contract`, so the walk also looks at how those nodes begin.
-/
import ContractDocs.Source.Comments
import ContractDocs.Source.Declaration
import ContractDocs.Source.Recorder

namespace ContractDocs

open Text

/-- Words that open a contract-like scope. -/
def scopeKeywords : List String :=
  ["contract", "library", "interface"]

/-- Characters of a declared name. -/
def isNameChar (c : Char) : Bool :=
  isAlphanumeric c || c = '_' || c = '$'

/-- The words of a header, which blanks and opening braces separate. -/
def headerWords (text : List Char) : List (List Char) :=
  (text.splitOnP fun c => isBlank c || c = '\x7b').filter (!·.isEmpty)

/-- The name that a contract-like header at the start of a text declares; it may be empty. -/
def scopeHeaderName? (text : String) : Option String :=
  let found := headerWords text.toList
  let found := if found.head? = some "abstract".toList then found.tail else found
  match found with
  | keyword :: rest =>
    if scopeKeywords.contains (String.ofList keyword) then
      some (String.ofList ((rest.head?.getD []).takeWhile isNameChar))
    else none
  | [] => none

namespace Source

/-- The comments right before a node, in the order of the file; `before` holds its earlier
siblings, nearest first. -/
def commentsBefore (source : Source) (before : List Node) : List String :=
  ((before.takeWhile (·.kind == "comment")).map source.text).reverse

/-- The record of a declaration node, when its header can be read. -/
def record? (source : Source) (before : List Node) (node : Node) (kind : Kind) : Option Record :=
  (source.signature? node kind).map fun parts =>
    { kind
      file := source.path
      parts
      line := node.line
      doc := Comments.documentation (source.commentsBefore before)
      members := source.members node kind }

/-- Refuses text inside an open scope that begins like a contract-like header. -/
def checkRecovered (source : Source) (recorder : Recorder) (node : Node) : Except Nesting Unit :=
  if recorder.scope.isSome && (node.isError || node.declares? == some .stateVar) then
    match scopeHeaderName? (source.text node) with
    | some inner => recorder.checkNotNested node.line inner
    | none => .ok ()
  else .ok ()

mutual

/-- Records what a node declares, and what is declared below it. -/
def visit (source : Source) (before : List Node) (recorder : Recorder) :
    Node → Except Nesting Recorder
  | node@⟨_, _, _, _, _, _, children⟩ => do
    source.checkRecovered recorder node
    match node.declares? with
    | none => source.visitAll [] recorder children
    | some kind =>
      match source.record? before node kind with
      | none =>
        return recorder.warn node.line ("could not read " ++ kind.label ++ " declaration")
      | some record =>
        if kind.isContractLike then
          let opened ← recorder.enter record
          let inside ← source.visitAll [] opened children
          return inside.exit
        else return recorder.member record

/-- Visits the named nodes of a list of siblings; `before` holds those already passed. -/
def visitAll (source : Source) (before : List Node) (recorder : Recorder) :
    List Node → Except Nesting Recorder
  | [] => return recorder
  | node :: rest => do
    let next ← if node.named then source.visit before recorder node else pure recorder
    source.visitAll (node :: before) next rest

end

/-- The definitions of a file, or the first nesting violation in it. -/
def definitions (source : Source) : Except Nesting Definitions := do
  let recorder ← source.visit [] { file := source.path } source.root
  return recorder.output

end Source

end ContractDocs
