/-
The layout of a YAML stream: its indentation and its brackets, made explicit
as tokens. A block collection is opened by the column of its first entry and
closed by a token further left. Whether a piece of text is the key of a
mapping shows only at the colon after it, so `Layout` remembers where a key
may have started, and puts the token of the key there when a colon comes on
the same line.
-/
import ContractDocs.Yaml.Token

namespace ContractDocs.Yaml

/-- A place where the key of a mapping may have started. -/
structure KeyStart where
  /-- How many tokens come before it. -/
  position : Nat
  mark : Mark
  /-- At the column of the open block only a key can stand. -/
  required : Bool
deriving Repr

/-- The state of reading a stream. -/
structure Layout where
  cursor : Cursor
  tokens : Array Token := #[]
  /-- The columns of the open block collections, the innermost first. -/
  blocks : List Nat := []
  /-- The possible key of the text outside brackets and of every open bracket, the innermost
  first. -/
  keys : List (Option KeyStart) := [none]
  /-- Whether a key may start here. -/
  keyAllowed : Bool := true

namespace Layout

/-- Whether brackets are open. -/
def inFlow (layout : Layout) : Bool :=
  1 < layout.keys.length

/-- The column of what is read next. -/
def column (layout : Layout) : Nat :=
  layout.cursor.mark.column

/-- Adds a token. -/
def push (layout : Layout) (token : Token) : Layout :=
  { layout with tokens := layout.tokens.push token }

/-- Adds a token that is written in `n` characters. -/
def take (layout : Layout) (n : Nat) (token : Token) : Layout :=
  { layout.push token with cursor := layout.cursor.skip n }

/-- Sets whether a key may start. -/
def allowKey (layout : Layout) (allowed : Bool) : Layout :=
  { layout with keyAllowed := allowed }

-- =============================================================== keys

/-- Forgets the innermost possible key; a required one must not be lost. -/
def dropKey (layout : Layout) : Option Layout :=
  match layout.keys with
  | some start :: _ =>
    if start.required then none else some { layout with keys := none :: layout.keys.tail }
  | _ => some layout

/-- Remembers that a key may start here. -/
def saveKey (layout : Layout) : Option Layout :=
  if !layout.keyAllowed then some layout
  else do
    let layout ← layout.dropKey
    let start : KeyStart :=
      { position := layout.tokens.size
        mark := layout.cursor.mark
        required := !layout.inFlow && layout.blocks.head? = some layout.column }
    return { layout with keys := some start :: layout.keys.tail }

/-- Whether a key that started at a mark can no longer end: it stands on one line, within 1024
bytes. -/
def isStale (now : Mark) (start : KeyStart) : Bool :=
  start.mark.line < now.line || start.mark.offset + 1024 < now.offset

/-- Forgets the keys that can no longer end. -/
def dropStale (layout : Layout) : Option Layout :=
  let stale := isStale layout.cursor.mark
  if layout.keys.any fun key => key.any fun start => stale start && start.required then none
  else some { layout with keys := layout.keys.map (·.filter (!stale ·)) }

-- ============================================================= blocks

/-- Opens a block collection at a column, unless one is open there; its token goes to a position
among the tokens. -/
def openBlock (layout : Layout) (column position : Nat) (token : Token) : Layout :=
  if layout.inFlow || layout.blocks.head?.any (column ≤ ·) then layout
  else
    { layout with
      blocks := column :: layout.blocks
      tokens := layout.tokens.extract 0 position ++ #[token]
        ++ layout.tokens.extract position layout.tokens.size }

/-- Closes the block collections that `left` says lie to the right. -/
def closeBlocks (layout : Layout) (left : Nat → Bool) : Layout :=
  if layout.inFlow then layout
  else
    let closed := layout.blocks.takeWhile left
    { layout with
      blocks := layout.blocks.drop closed.length
      tokens := layout.tokens ++ (closed.map fun _ => Token.blockEnd).toArray }

/-- Closes everything before a token that stands outside any collection. -/
def leaveAll (layout : Layout) : Option Layout :=
  ((layout.closeBlocks fun _ => true).dropKey).map (·.allowKey false)

-- =============================================================== gaps

/-- The point of the next token, and whether a key may start there. Comments, line breaks and
spaces are left out; a tab only where no key may start, since it is no indentation. A new line may
start a key. -/
def nextToken (inFlow : Bool) (keyAllowed inComment : Bool) (mark : Mark) :
    List Char → Cursor × Bool
  | [] => (⟨[], mark⟩, keyAllowed)
  | c :: rest =>
    if isBreak c then nextToken inFlow (keyAllowed || !inFlow) false (mark.after c) rest
    else if inComment || c = ' ' || (c = '\t' && (inFlow || !keyAllowed))
        || (c = '\ufeff' && mark.column = 0) then
      nextToken inFlow keyAllowed inComment (mark.after c) rest
    else if c = '#' then nextToken inFlow keyAllowed true (mark.after c) rest
    else (⟨c :: rest, mark⟩, keyAllowed)

-- ============================================================= tokens

/-- An indicator that outside brackets must stand where a key may start: the dash of an entry, or the
question mark of a key. -/
def blockIndicator (layout : Layout) (collection token : Token) : Option Layout := do
  if !layout.inFlow && !layout.keyAllowed then none
  else
    let opened := layout.openBlock layout.column layout.tokens.size collection
    let layout ← opened.dropKey
    return (layout.take 1 token).allowKey (!layout.inFlow)

/-- The colon behind a key. -/
def valueIndicator (layout : Layout) : Option Layout :=
  match layout.keys with
  | some start :: outer =>
    let keyed := { layout with
      keys := none :: outer
      tokens := layout.tokens.extract 0 start.position ++ #[Token.key]
        ++ layout.tokens.extract start.position layout.tokens.size }
    let opened := keyed.openBlock start.mark.column start.position .blockMapping
    some ((opened.take 1 .value).allowKey false)
  | _ =>
    if layout.inFlow then some ((layout.take 1 .value).allowKey false)
    else if !layout.keyAllowed then none
    else
      let opened := layout.openBlock layout.column layout.tokens.size .blockMapping
      some ((opened.take 1 .value).allowKey true)

/-- An opening bracket. -/
def openFlow (layout : Layout) (token : Token) : Option Layout := do
  let layout ← layout.saveKey
  return ({ layout with keys := none :: layout.keys }.take 1 token).allowKey true

/-- A closing bracket. -/
def closeFlow (layout : Layout) (token : Token) : Option Layout := do
  let layout ← layout.dropKey
  let keys := if layout.inFlow then layout.keys.tail else layout.keys
  return ({ layout with keys }.take 1 token).allowKey false

/-- A token that may start a key and was read by a reader of its own. -/
def nodeToken (layout : Layout) (read : Cursor → Option (Token × Cursor)) : Option Layout := do
  let layout ← layout.saveKey
  let (token, cursor) ← read layout.cursor
  return ({ layout.push token with cursor }).allowKey false

/-- A scalar that may start a key. -/
def scalarToken (layout : Layout) (style : Style) (read : Cursor → Option Scalar) :
    Option Layout := do
  let layout ← layout.saveKey
  let scalar ← read layout.cursor
  let token := Token.scalar (String.ofList scalar.text) style
  return ({ layout.push token with cursor := scalar.cursor }).allowKey scalar.onNewLine

/-- A block scalar. -/
def blockToken (layout : Layout) (folding : Bool) : Option Layout := do
  let layout ← layout.dropKey
  let scalar ← blockScalar folding layout.blocks.head? (layout.cursor.skip 1)
  let style := if folding then Style.folded else Style.literal
  let token := Token.scalar (String.ofList scalar.text) style
  return ({ layout.push token with cursor := scalar.cursor }).allowKey true

/-- Whether `c`, with `rest` behind it, starts a plain scalar. -/
def startsPlain (inFlow : Bool) (c : Char) (rest : List Char) : Bool :=
  let indicators := ['-', '?', ':', ',', '[', ']', '\x7b', '\x7d', '#', '&', '*', '!', '|', '>',
    '\'', '"', '%', '@', '\x60']
  (!isSpace c && !isBreak c && !indicators.contains c)
    || (c = '-' && !rest.head?.any isSpace)
    || (!inFlow && (c = '?' || c = ':') && !atGap rest)

/-- Reads the token at the cursor. -/
def readToken (layout : Layout) (c : Char) (rest : List Char) : Option Layout :=
  let flow := layout.inFlow
  let atMargin := layout.column = 0
  if atMargin && c = '%' then do
    let layout ← layout.leaveAll
    let (token, cursor) ← directive? (layout.cursor.skip 1)
    return { layout.push token with cursor }
  else if atMargin && atDocumentMark (c :: rest) then do
    let layout ← layout.leaveAll
    return layout.take 3 (if c = '-' then .documentStart else .documentEnd)
  else if c = '[' then layout.openFlow .flowSequence
  else if c = '\x7b' then layout.openFlow .flowMapping
  else if c = ']' then layout.closeFlow .flowSequenceEnd
  else if c = '\x7d' then layout.closeFlow .flowMappingEnd
  else if c = ',' then layout.dropKey.map fun layout => (layout.take 1 .flowEntry).allowKey true
  else if c = '-' && atGap rest then
    (layout.blockIndicator .blockSequence .blockEntry).map (·.allowKey true)
  else if c = '?' && (flow || atGap rest) then layout.blockIndicator .blockMapping .key
  else if c = ':' && (flow || atGap rest) then layout.valueIndicator
  else if c = '*' then layout.nodeToken fun cursor =>
    (anchorName? (cursor.skip 1)).map fun (name, cursor) => (.alias name, cursor)
  else if c = '&' then layout.nodeToken fun cursor =>
    (anchorName? (cursor.skip 1)).map fun (name, cursor) => (.anchor name, cursor)
  else if c = '!' then layout.nodeToken (tagToken? flow)
  else if c = '|' && !flow then layout.blockToken false
  else if c = '>' && !flow then layout.blockToken true
  else if c = '\'' then
    layout.scalarToken .quoted fun cursor => quotedScalar false [] {} (cursor.skip 1)
  else if c = '"' then
    layout.scalarToken .quoted fun cursor => quotedScalar true [] {} (cursor.skip 1)
  else if startsPlain flow c rest then
    layout.scalarToken .plain fun cursor =>
      plainScalar flow (layout.blocks.head?.elim 0 (· + 1)) [] {} cursor.mark cursor.rest
  else none

/-- All tokens from a state on; every token takes some of the text. -/
def finish (layout : Layout) : Option (Array Token) :=
  let (cursor, keyAllowed) :=
    nextToken layout.inFlow layout.keyAllowed false layout.cursor.mark layout.cursor.rest
  match cursor.rest with
  | [] => do
    let mark : Mark := { cursor.mark with line := cursor.mark.line + 1, column := 0 }
    let layout ← dropStale { layout with cursor }
    let layout ← { layout with cursor := ⟨[], mark⟩ }.leaveAll
    return layout.tokens
  | c :: rest =>
    match dropStale { layout with cursor, keyAllowed } with
    | none => none
    | some fresh =>
      match (fresh.closeBlocks (cursor.mark.column < ·)).readToken c rest with
      | none => none
      | some next =>
        if next.cursor.rest.length < layout.cursor.rest.length then next.finish else none
termination_by layout.cursor.rest.length

end Layout

/-- The tokens of a text; none when some character or construct is not allowed. -/
def tokens? (text : List Char) : Option (List Token) :=
  if text.all isAllowed then
    (Layout.finish { cursor := { rest := normalise text } }).map Array.toList
  else none

end ContractDocs.Yaml
