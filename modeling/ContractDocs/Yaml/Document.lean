/-
YAML documents: directives, the root of the document, and what its aliases
stand for. A slot holds the node that was given it last, which may follow
the alias or lie around it.
-/
import ContractDocs.Yaml.Node

namespace ContractDocs.Yaml

/-- A document. -/
structure Document where
  root : Node
deriving Repr, Inhabited

namespace Document

/-- The node in a slot: the last that was given it. -/
def inSlot? (document : Document) (slot : Nat) : Option Node :=
  document.root.anchored.reverse.lookup slot

/-- The node that a node of the document stands for. What an alias stands for is no alias, since
aliases have no slots. -/
def target? (document : Document) : Node → Option Node
  | .alias slot => document.inSlot? slot
  | node => some node

end Document

-- ============================================================= reading

/-- Reads the directives of a document: at most one version, 1.1 or 1.2, and no handle twice. -/
def readDirectives (versioned : Bool) (handles : Handles) :
    List Token → Option (Handles × List Token)
  | .version major minor :: rest =>
    if versioned || major ≠ 1 || (minor ≠ 1 && minor ≠ 2) then none
    else readDirectives true handles rest
  | .tagHandle handle uri :: rest =>
    if (handles.lookup handle).isSome then none
    else readDirectives versioned ((handle, uri) :: handles) rest
  | rest => some (handles, rest)

/-- Whether only the ends of documents remain. -/
def onlyEnds (tokens : List Token) : Bool :=
  tokens.all (· = .documentEnd)

/-- The root of a document after its directives and its start; every step of reading it takes a
token or goes one call deeper, and three calls lie between two tokens at most. -/
def readRoot (handles : Handles) (started : Bool) (tokens : List Token) : Option Document := do
  let (root, state) ←
    if started && tokens.head?.all [Token.documentStart, .documentEnd].contains then
      pure (Node.void, { tokens, handles : DocState })
    else (readNode (4 * tokens.length + 4) ⟨true, false⟩).run { tokens, handles }
  if onlyEnds state.tokens then some ⟨root⟩ else none

/-- Reads a text with one document, or with none. -/
def read? (text : String) : Option (Option Document) := do
  let tokens ← tokens? text.toList
  match tokens with
  | [] => return none
  | _ =>
    let (handles, rest) ← readDirectives false [] tokens
    match rest with
    | .documentStart :: rest => return some (← readRoot handles true rest)
    | _ =>
      if rest.length < tokens.length then none
      else return some (← readRoot handles false rest)

end ContractDocs.Yaml
