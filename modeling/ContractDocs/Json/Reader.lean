/-
Reading JSON text. The tokens drive a machine whose state is the open lists
and objects, innermost first, and what may come next; the value is whatever
the machine has finished when the tokens end.
-/
import ContractDocs.Json.Token

namespace ContractDocs.Json

/-- An open list or object with what it holds so far; a list holds its latest item first, and
an object knows the key whose value is awaited. -/
inductive Frame where
  | list (items : List Json)
  | object (fields : List (String × Json)) (key : String)

/-- What may come next. -/
inductive Expect where
  | value
  | itemOrEnd
  | keyOrEnd
  | key
  | colon
  | commaOrEnd
  | nothing (value : Json)

/-- The open frames, innermost first, and what may come next. -/
structure Machine where
  frames : List Frame
  expect : Expect

namespace Machine

/-- Before the first token. -/
def start : Machine :=
  ⟨[], .value⟩

/-- Hands a finished value to the innermost open frame. -/
def finish (value : Json) : List Frame → Machine
  | [] => ⟨[], .nothing value⟩
  | .list items :: outer => ⟨.list (value :: items) :: outer, .commaOrEnd⟩
  | .object fields key :: outer => ⟨.object (setField fields key value) key :: outer, .commaOrEnd⟩

/-- Opens a frame unless that nests deeper than `depth`. -/
def enter (depth : Nat) (frame : Frame) (expect : Expect) (frames : List Frame) :
    Option Machine :=
  if frames.length < depth then some ⟨frame :: frames, expect⟩ else none

/-- Takes the first token of a value. -/
def beginValue (depth : Nat) (frames : List Frame) : Token → Option Machine
  | .openList => enter depth (.list []) .itemOrEnd frames
  | .openObject => enter depth (.object [] "") .keyOrEnd frames
  | .string value => some (finish (.string value) frames)
  | .scalar value => some (finish value frames)
  | _ => none

/-- Takes one token. -/
def step (depth : Nat) (machine : Machine) (token : Token) : Option Machine :=
  match machine.expect, token, machine.frames with
  | .value, token, frames => beginValue depth frames token
  | .itemOrEnd, .closeList, .list items :: outer => some (finish (.list items.reverse) outer)
  | .itemOrEnd, token, frames => beginValue depth frames token
  | .keyOrEnd, .closeObject, .object fields _ :: outer => some (finish (.object fields) outer)
  | .keyOrEnd, .string key, .object fields _ :: outer => some ⟨.object fields key :: outer, .colon⟩
  | .key, .string key, .object fields _ :: outer => some ⟨.object fields key :: outer, .colon⟩
  | .colon, .colon, frames => some ⟨frames, .value⟩
  | .commaOrEnd, .comma, .list items :: outer => some ⟨.list items :: outer, .value⟩
  | .commaOrEnd, .comma, .object fields key :: outer => some ⟨.object fields key :: outer, .key⟩
  | .commaOrEnd, .closeList, .list items :: outer => some (finish (.list items.reverse) outer)
  | .commaOrEnd, .closeObject, .object fields _ :: outer => some (finish (.object fields) outer)
  | _, _, _ => none

end Machine

/-- Reads a text that holds one value with at most `depth` levels of lists and objects. -/
def read? (depth : Nat) (text : List Char) : Option Json := do
  let found ← tokens? text
  let machine ← found.foldlM (Machine.step depth) .start
  match machine.expect with
  | .nothing value => some value
  | _ => none

end ContractDocs.Json
