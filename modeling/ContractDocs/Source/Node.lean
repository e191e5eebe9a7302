/-
Syntax trees of source files. The grammar stands outside this library: a
file comes with the tree that a parser made of it, nodes with byte offsets
into the file. Nodes are read by their kind, by the field they fill in
their parent, and by their text.
-/

namespace ContractDocs

/-- A node of a syntax tree. A node that is not named is a token, and its kind is its text. -/
structure Node where
  kind : String
  named : Bool
  /-- The field of the parent that this node fills. -/
  field : Option String
  /-- Offsets in bytes; a token the parser inserted is empty. -/
  start : Nat
  stop : Nat
  /-- Row of the first byte, counted from zero. -/
  row : Nat
  children : List Node
deriving Repr, Inhabited

namespace Node

/-- The line a node starts on, counted from one. -/
def line (node : Node) : Nat :=
  node.row + 1

/-- A stretch of text that fits no rule of the grammar. -/
def isError (node : Node) : Bool :=
  node.kind == "ERROR"

/-- The children that are not tokens. -/
def namedChildren (node : Node) : List Node :=
  node.children.filter (·.named)

/-- The first child that fills a field. -/
def child? (node : Node) (field : String) : Option Node :=
  node.children.find? (·.field == some field)

end Node

/-- A tree, and whether the parser had to skip or insert something. -/
structure Tree where
  root : Node
  recovered : Bool
deriving Repr, Inhabited

/-- A source file with its tree. -/
structure Source where
  path : String
  bytes : ByteArray
  root : Node
  /-- The parser had to skip or insert something. -/
  recovered : Bool

namespace Source

/-- The text of a node; a stretch of bytes that is not UTF-8 has no text. -/
def text (source : Source) (node : Node) : String :=
  (String.fromUTF8? (source.bytes.extract node.start node.stop)).getD ""

end Source

end ContractDocs
