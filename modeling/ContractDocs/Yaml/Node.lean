/-
YAML nodes as trees: scalars, sequences, and mappings with their pairs in
written order. An anchor gives its node a slot, and an alias stands for a
slot; what that holds shows only at the end of the document. Slots are
numbered by how many names were anchored before. A name that is anchored
again moves to a new slot without making one name more, so the anchor after
it has the same slot.
-/
import ContractDocs.Yaml.Layout

namespace ContractDocs.Yaml

/-- What may stand before a node: an anchor, of which only the slot counts, and a tag, which is kept
in full. -/
structure Properties where
  slot : Option Nat := none
  tag : Option Bytes := none
deriving DecidableEq, Repr, Inhabited

/-- A node of a document. -/
inductive Node where
  | scalar (properties : Properties) (style : Style) (text : String)
  | sequence (properties : Properties) (items : List Node)
  | mapping (properties : Properties) (pairs : List (Node × Node))
  | alias (slot : Nat)
deriving Repr, Inhabited

namespace Node

/-- The scalar that stands where nothing is written. -/
def void : Node := scalar {} .plain ""

mutual

/-- The nodes that have a slot, in the order in which they start. -/
def anchored : Node → List (Nat × Node)
  | scalar properties style text =>
    (properties.slot.map (·, scalar properties style text)).toList
  | sequence properties items =>
    (properties.slot.map (·, sequence properties items)).toList ++ itemsAnchored items
  | mapping properties pairs =>
    (properties.slot.map (·, mapping properties pairs)).toList ++ pairsAnchored pairs
  | .alias _ => []

/-- The nodes that have a slot, in the items of a sequence. -/
def itemsAnchored : List Node → List (Nat × Node)
  | [] => []
  | item :: items => item.anchored ++ itemsAnchored items

/-- The nodes that have a slot, in the pairs of a mapping. -/
def pairsAnchored : List (Node × Node) → List (Nat × Node)
  | [] => []
  | (key, value) :: pairs => key.anchored ++ value.anchored ++ pairsAnchored pairs

end

end Node

-- ============================================================= reading

/-- What the tags of a document are made from, by their handles. -/
abbrev Handles := List (String × Bytes)

/-- The handles that need no directive. -/
def defaultHandles : Handles :=
  [("!", Text.utf8 ['!']), ("!!", Text.utf8 "tag:yaml.org,2002:".toList)]

/-- The state of reading a document: the tokens to come, and the slots of the names that are
anchored so far. -/
structure DocState where
  tokens : List Token
  handles : Handles := []
  slots : List (String × Nat) := []

/-- A reader of nodes. -/
abbrev NodeReader := StateT DocState Option

/-- The next token. -/
def peek : NodeReader (Option Token) :=
  return (← get).tokens.head?

/-- Passes over the next token. -/
def skipToken : NodeReader Unit :=
  modify fun state => { state with tokens := state.tokens.tail }

/-- Whether the next token is one of `tokens`; the end of the text is none of them. -/
def isNext (tokens : List Token) : NodeReader Bool :=
  return (← peek).any tokens.contains

/-- Passes over the next token, which has to be `token`. -/
def expect (token : Token) : NodeReader Unit := do
  if ← isNext [token] then skipToken else failure

/-- Passes over the next token if it is `token`. -/
def accept (token : Token) : NodeReader Bool := do
  if ← isNext [token] then
    skipToken
    return true
  else return false

-- ========================================================== properties

/-- The slot for an anchor: as many names are anchored before it. -/
def newSlot (name : String) : NodeReader Nat := do
  let slots := (← get).slots
  modify fun state => { state with slots := (name, slots.length) :: slots.filter (·.1 ≠ name) }
  return slots.length

/-- The alias for a name that is anchored. -/
def readAlias (name : String) : NodeReader Node := do
  match (← get).slots.lookup name with
  | some slot => return .alias slot
  | none => failure

/-- A tag in full. -/
def resolveTag (handle : String) (suffix : Bytes) : NodeReader Bytes := do
  if handle = "" then return suffix
  else match ((← get).handles ++ defaultHandles).lookup handle with
    | some uri => return uri ++ suffix
    | none => failure

/-- Reads an anchor, if there is one. -/
def readAnchor : NodeReader (Option String) := do
  match ← peek with
  | some (.anchor name) =>
    skipToken
    return some name
  | _ => return none

/-- Reads a tag, if there is one. -/
def readTag : NodeReader (Option Bytes) := do
  match ← peek with
  | some (.tag handle suffix) =>
    skipToken
    return some (← resolveTag handle suffix)
  | _ => return none

/-- Reads the anchor and the tag of a node, in either order. -/
def readProperties : NodeReader Properties := do
  let early ← readAnchor
  let tag ← readTag
  let late ← if early.isNone && tag.isSome then readAnchor else pure none
  return { slot := ← (early <|> late).mapM newSlot, tag }

-- =============================================================== nodes

/-- Where a node stands: whether a block may stand there, and whether a sequence may do so without
being indented. -/
structure Spot where
  block : Bool
  indentless : Bool

mutual

/-- Reads a node. -/
def readNode (fuel : Nat) (spot : Spot) : NodeReader Node := do
  match fuel with
  | 0 => failure
  | fuel + 1 =>
    match ← peek with
    | some (.alias name) =>
      skipToken
      readAlias name
    | _ => readContent fuel spot (← readProperties)

/-- Reads what follows the properties of a node. Only one that has an anchor or a tag may be left
out. -/
def readContent (fuel : Nat) (spot : Spot) (properties : Properties) : NodeReader Node := do
  match fuel with
  | 0 => failure
  | fuel + 1 =>
    match ← peek with
    | some (.scalar text style) =>
      skipToken
      return .scalar properties style text
    | some .flowSequence =>
      skipToken
      return .sequence properties (← flowItems fuel true)
    | some .flowMapping =>
      skipToken
      return .mapping properties (← flowPairs fuel true)
    | token =>
      if token = some .blockEntry && spot.indentless then
        return .sequence properties (← indentlessItems fuel)
      else if token = some .blockSequence && spot.block then
        skipToken
        return .sequence properties (← blockItems fuel)
      else if token = some .blockMapping && spot.block then
        skipToken
        return .mapping properties (← blockPairs fuel)
      else if properties = {} then failure
      else return .scalar properties .plain ""

/-- A node, or nothing before one of the tokens in `ends`. -/
def optionalNode (fuel : Nat) (spot : Spot) (ends : List Token) : NodeReader Node := do
  match fuel with
  | 0 => failure
  | fuel + 1 =>
    if ← isNext ends then return .void
    else readNode fuel spot

/-- The items of an indented block sequence. -/
def blockItems (fuel : Nat) : NodeReader (List Node) := do
  match fuel with
  | 0 => failure
  | fuel + 1 =>
    if ← accept .blockEnd then return []
    else
      expect .blockEntry
      let item ← optionalNode fuel ⟨true, false⟩ [.blockEntry, .blockEnd]
      return item :: (← blockItems fuel)

/-- The items of a block sequence at the column of the mapping around it. -/
def indentlessItems (fuel : Nat) : NodeReader (List Node) := do
  match fuel with
  | 0 => failure
  | fuel + 1 =>
    if ← accept .blockEntry then
      let item ← optionalNode fuel ⟨true, false⟩ [.blockEntry, .key, .value, .blockEnd]
      return item :: (← indentlessItems fuel)
    else return []

/-- The pairs of a block mapping. -/
def blockPairs (fuel : Nat) : NodeReader (List (Node × Node)) := do
  match fuel with
  | 0 => failure
  | fuel + 1 =>
    if ← accept .blockEnd then return []
    else
      expect .key
      let ends := [Token.key, .value, .blockEnd]
      let key ← optionalNode fuel ⟨true, true⟩ ends
      let value ← if ← accept .value then optionalNode fuel ⟨true, true⟩ ends else pure .void
      return (key, value) :: (← blockPairs fuel)

/-- The items of a sequence in brackets; a pair among them is a mapping of its own. -/
def flowItems (fuel : Nat) (first : Bool) : NodeReader (List Node) := do
  match fuel with
  | 0 => failure
  | fuel + 1 =>
    if ← accept .flowSequenceEnd then return []
    else
      if !first then expect .flowEntry
      if ← accept .flowSequenceEnd then return []
      else
        let item ← if ← accept .key then flowPair fuel else readNode fuel ⟨false, false⟩
        return item :: (← flowItems fuel false)

/-- A pair that is an item of a sequence in brackets. A key that is left out takes the token behind
it along. -/
def flowPair (fuel : Nat) : NodeReader Node := do
  match fuel with
  | 0 => failure
  | fuel + 1 =>
    let ends := [Token.flowEntry, .flowSequenceEnd]
    let key ← if ← isNext (.value :: ends) then
        skipToken
        pure Node.void
      else readNode fuel ⟨false, false⟩
    let value ← if ← accept .value then optionalNode fuel ⟨false, false⟩ ends else pure .void
    return .mapping {} [(key, value)]

/-- The pairs of a mapping in braces; a key may lack its value. -/
def flowPairs (fuel : Nat) (first : Bool) : NodeReader (List (Node × Node)) := do
  match fuel with
  | 0 => failure
  | fuel + 1 =>
    if ← accept .flowMappingEnd then return []
    else
      if !first then expect .flowEntry
      if ← accept .flowMappingEnd then return []
      else
        let ends := [Token.flowEntry, .flowMappingEnd]
        let pair ← if ← accept .key then
            let key ← optionalNode fuel ⟨false, false⟩ (.value :: ends)
            let value ← if ← accept .value then optionalNode fuel ⟨false, false⟩ ends
              else pure .void
            pure (key, value)
          else pure (← readNode fuel ⟨false, false⟩, .void)
        return pair :: (← flowPairs fuel false)

end

end ContractDocs.Yaml
