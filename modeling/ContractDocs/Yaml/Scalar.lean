/-
The scalars of YAML: plain, quoted and block. Where a plain or quoted scalar
goes over several lines, the spaces and line breaks between its words are a
`Gap`: one line break is read as a space, and of several the first is
dropped. Block scalars keep their lines or fold them, and say how many line
breaks they end with.
-/
import ContractDocs.Text.Hex
import ContractDocs.Yaml.Text

namespace ContractDocs.Yaml

/-- How a scalar is written. -/
inductive Style where
  | plain
  | quoted
  | literal
  | folded
deriving DecidableEq, Repr, Inhabited

/-- A scalar that was read, and what follows it. -/
structure Scalar where
  text : List Char
  /-- The scalar ends at the start of another line. -/
  onNewLine : Bool
  cursor : Cursor

-- =============================================================== gaps

/-- The spaces and line breaks between two words. -/
structure Gap where
  /-- The spaces before any line break. -/
  spaces : List Char := []
  /-- Whether a line ended, also by an escaped line break. -/
  broken : Bool := false
  first : Option Char := none
  others : List Char := []

namespace Gap

/-- Whether there is nothing between the words. -/
def isEmpty (gap : Gap) : Bool :=
  gap.spaces.isEmpty && !gap.broken

/-- The gap with one more space; at the start of a line spaces count for nothing. -/
def addSpace (gap : Gap) (c : Char) : Gap :=
  if gap.broken then gap else { gap with spaces := gap.spaces ++ [c] }

/-- The gap with one more line break. -/
def addBreak (gap : Gap) (c : Char) : Gap :=
  if gap.broken then { gap with others := gap.others ++ [c] }
  else { broken := true, first := some c }

/-- The gap after an escaped line break. -/
def escaped : Gap :=
  { broken := true }

/-- What a gap is read as. -/
def folded (gap : Gap) : List Char :=
  if !gap.broken then gap.spaces
  else if gap.first = some '\n' then (if gap.others = [] then [' '] else gap.others)
  else gap.first.toList ++ gap.others

end Gap

-- ============================================================== plain

/-- The characters that end a plain scalar between brackets. -/
def flowIndicators : List Char := [',', '[', ']', '\x7b', '\x7d']

/-- Whether a plain scalar ends before `c` and `rest`, at a word boundary or anywhere. -/
def endsPlain (inFlow : Bool) (indent : Nat) (mark : Mark) (gap : Gap) (c : Char)
    (rest : List Char) : Bool :=
  (!gap.isEmpty &&
    (c = '#' || (!inFlow && mark.column < indent)
      || (mark.column = 0 && atDocumentMark (c :: rest))))
  || (c = ':' && atGap rest) || (inFlow && flowIndicators.contains c)

/-- Reads a plain scalar; outside brackets it goes on over lines that are indented by `indent`
at least. -/
def plainScalar (inFlow : Bool) (indent : Nat) (text : List Char) (gap : Gap) (mark : Mark) :
    List Char → Option Scalar
  | [] => some ⟨text, gap.broken, ⟨[], mark⟩⟩
  | c :: rest =>
    if isSpace c then
      if c = '\t' && gap.broken && mark.column < indent then none
      else plainScalar inFlow indent text (gap.addSpace c) (mark.after c) rest
    else if isBreak c then plainScalar inFlow indent text (gap.addBreak c) (mark.after c) rest
    else if inFlow && c = ':' && rest.head?.any ('?' :: flowIndicators).contains then none
    else if endsPlain inFlow indent mark gap c rest then
      some ⟨text, gap.broken, ⟨c :: rest, mark⟩⟩
    else plainScalar inFlow indent (text ++ gap.folded ++ [c]) {} (mark.after c) rest

-- ============================================================= quoted

/-- The character that a one-letter escape stands for. -/
def shortEscape? : Char → Option Char
  | '0' => some '\x00'
  | 'a' => some '\x07'
  | 'b' => some '\x08'
  | 't' | '\t' => some '\t'
  | 'n' => some '\n'
  | 'v' => some '\x0b'
  | 'f' => some '\x0c'
  | 'r' => some '\r'
  | 'e' => some '\x1b'
  | ' ' => some ' '
  | '"' => some '"'
  | '/' => some '/'
  | '\\' => some '\\'
  | 'N' => some '\u0085'
  | '_' => some '\u00a0'
  | 'L' => some '\u2028'
  | 'P' => some '\u2029'
  | _ => none

/-- How many digits follow an escape by number. -/
def escapeDigits? : Char → Option Nat
  | 'x' => some 2
  | 'u' => some 4
  | 'U' => some 8
  | _ => none

/-- The character that an escape stands for, and how many characters the escape has after its
backslash. -/
def escape? : List Char → Option (Char × Nat)
  | [] => none
  | c :: rest =>
    match escapeDigits? c with
    | none => (shortEscape? c).map (·, 1)
    | some n =>
      if rest.length < n then none
      else match Text.hexNumber? (rest.take n) with
        | some value => if value.isValidChar then some (Char.ofNat value, n + 1) else none
        | none => none

/-- Reads a quoted scalar after its opening quote. A double quoted one has escapes, and may escape
its line breaks; in a single quoted one two quotes stand for one. -/
def quotedScalar (double : Bool) (text : List Char) (gap : Gap) (cursor : Cursor) :
    Option Scalar :=
  match cursor with
  | ⟨[], _⟩ => none
  | ⟨c :: rest, mark⟩ =>
    let next : Cursor := ⟨rest, mark.after c⟩
    let word := text ++ gap.folded
    if isSpace c then quotedScalar double text (gap.addSpace c) next
    else if isBreak c then quotedScalar double text (gap.addBreak c) next
    else if mark.column = 0 && atDocumentMark (c :: rest) then none
    else if !double && c = '\'' && rest.head? = some '\'' then
      quotedScalar double (word ++ ['\'']) {} ⟨rest.drop 1, next.mark.after '\''⟩
    else if c = (if double then '"' else '\'') then some ⟨word, false, next⟩
    else if double && c = '\\' then
      match rest with
      | b :: more =>
        if isBreak b then quotedScalar double word .escaped ⟨more, next.mark.after b⟩
        else match escape? (b :: more) with
          | some (d, n) =>
            let mark := { next.mark with
              column := next.mark.column + n
              offset := next.mark.offset + n }
            quotedScalar double (word ++ [d]) {} ⟨(b :: more).drop n, mark⟩
          | none => none
      | [] => none
    else quotedScalar double (word ++ [c]) {} next
termination_by cursor.rest.length
decreasing_by all_goals grind

-- ============================================================== block

/-- What becomes of the line breaks at the end of a block scalar. -/
inductive Chomp where
  | strip
  | clip
  | keep
deriving DecidableEq, Repr

/-- The state of reading a block scalar. -/
structure BlockState where
  text : List Char := []
  /-- The line break that ended the last line. -/
  lineBreak : List Char := []
  /-- The line breaks of the empty lines after it. -/
  emptyLines : List Char := []
  /-- The last line started with a space. -/
  afterSpaced : Bool := false
  /-- The column of the lines, once it is known. -/
  indent : Option Nat
  /-- The deepest column of the empty lines in front. -/
  deepest : Nat := 0
  /-- Reading the text of a line, as opposed to the spaces before it. -/
  inLine : Bool := false

namespace BlockState

/-- Whether the spaces in front of a line may go on at a column. -/
def indenting (state : BlockState) (column : Nat) : Bool :=
  state.indent.all (column < ·)

/-- The text before a line that starts with `c`. A folded scalar joins two lines by a space unless
one of them starts with a space. -/
def joined (state : BlockState) (folding : Bool) (c : Char) : List Char :=
  if folding && state.lineBreak = ['\n'] && !state.afterSpaced && !isSpace c then
    state.text ++ (if state.emptyLines = [] then [' '] else state.emptyLines)
  else state.text ++ state.lineBreak ++ state.emptyLines

/-- The text of the scalar. -/
def finish (state : BlockState) (chomp : Chomp) : List Char :=
  match chomp with
  | .strip => state.text
  | .clip => state.text ++ state.lineBreak
  | .keep => state.text ++ state.lineBreak ++ state.emptyLines

end BlockState

/-- Reads the lines of a block scalar. Its first line that is not empty sets the column of all, and
that is `least` at least. -/
def blockLines (folding : Bool) (chomp : Chomp) (least : Nat) (state : BlockState) (mark : Mark) :
    List Char → Option Scalar
  | [] => some ⟨state.finish chomp, true, ⟨[], mark⟩⟩
  | c :: rest =>
    if state.inLine then
      let next := if isBreak c then { state with inLine := false, lineBreak := [c] }
        else { state with text := state.text ++ [c] }
      blockLines folding chomp least next (mark.after c) rest
    else if c = ' ' && state.indenting mark.column then
      blockLines folding chomp least state (mark.after c) rest
    else if c = '\t' && state.indenting mark.column then none
    else
      let deepest := max state.deepest mark.column
      if isBreak c then
        let next := { state with deepest, emptyLines := state.emptyLines ++ [c] }
        blockLines folding chomp least next (mark.after c) rest
      else
        let indent := state.indent.getD (max deepest least)
        if mark.column = indent then
          let next := { state with
            text := state.joined folding c ++ [c]
            lineBreak := []
            emptyLines := []
            afterSpaced := isSpace c
            indent := some indent
            inLine := true }
          blockLines folding chomp least next (mark.after c) rest
        else some ⟨state.finish chomp, true, ⟨c :: rest, mark⟩⟩

/-- Reads the marks behind `|` or `>`: what becomes of the last line breaks, and an indentation,
in either order. -/
def blockHeader? (rest : List Char) : Option (Chomp × Option Nat × Nat) :=
  let chomp? : Char → Option Chomp
    | '+' => some .keep
    | '-' => some .strip
    | _ => none
  let digit? (c : Char) : Option Nat := if c.isDigit then some (c.toNat - 48) else none
  let found : Chomp × Option Nat × Nat :=
    match rest.head?.bind chomp?, rest.head?.bind digit? with
    | some chomp, _ =>
      match (rest.drop 1).head?.bind digit? with
      | some n => (chomp, some n, 2)
      | none => (chomp, none, 1)
    | none, some n =>
      match (rest.drop 1).head?.bind chomp? with
      | some chomp => (chomp, some n, 2)
      | none => (.clip, some n, 1)
    | none, none => (.clip, none, 0)
  if found.2.1 = some 0 then none else some found

/-- Reads a block scalar after its `|` or `>`, inside a block at column `parent`. -/
def blockScalar (folding : Bool) (parent : Option Nat) (cursor : Cursor) : Option Scalar := do
  let (chomp, increment, n) ← blockHeader? cursor.rest
  let cursor ← (cursor.skip n).lineEnd?
  let cursor := cursor.skip 1
  let indent := increment.map (parent.getD 0 + ·)
  let least := parent.elim 1 (· + 1)
  blockLines folding chomp least { indent } cursor.mark cursor.rest

end ContractDocs.Yaml
