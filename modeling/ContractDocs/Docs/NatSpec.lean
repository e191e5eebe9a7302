/-
NatSpec: documentation text with tags, rendered as body text and a field
list. A tag is `@word` at the beginning of the text or after a blank, with
a blank after it; its payload reaches up to the next tag. The blank after a
tag belongs to that tag alone, so another `@` right behind it is payload.

The text is first cut into its leading part and its tags (`Cut`), which
together hold every character of it; then each piece contributes its lines
(`NatSpec.ofTag`, `NatSpec.ofBody`), tags first.
-/
import ContractDocs.Json.Printer
import ContractDocs.Json.Reader
import ContractDocs.Text.Words

namespace ContractDocs

open Text

-- ============================================================== tags

/-- A tag with the blank that ends its name and the text up to the next tag. -/
structure Tag where
  name : List Char
  blank : Char
  payload : List Char
deriving DecidableEq, Repr

/-- A documentation text cut at its tags. -/
structure Cut where
  leading : List Char
  tags : List Tag
deriving DecidableEq, Repr

namespace Cut

/-- The name, the closing blank and the rest of a text that stands after an `@`. -/
def tagName? (text : List Char) : Option (List Char × Char × List Char) :=
  let name := text.takeWhile isWord
  match text.dropWhile isWord with
  | c :: rest => if !name.isEmpty && isBlank c then some (name, c, rest) else none
  | [] => none

/-- The text before the first tag, and that tag with the text after it. `ready` says that a
tag may start right here. -/
def nextTag? (ready : Bool) : List Char →
    Option (List Char × (List Char × Char × List Char))
  | [] => none
  | c :: rest =>
    let later := (nextTag? (isBlank c) rest).map fun (before, tag) => (c :: before, tag)
    if ready && c = '@' then
      match tagName? rest with
      | some tag => some ([], tag)
      | none => later
    else later

theorem length_of_tagName? {text name rest : List Char} {blank : Char}
    (h : tagName? text = some (name, blank, rest)) : rest.length < text.length := by
  have hle : (text.dropWhile isWord).length ≤ text.length :=
    (List.dropWhile_sublist isWord).length_le
  simp only [tagName?] at h
  split at h
  · next c tail hdrop =>
    split at h
    · simp only [Option.some.injEq, Prod.mk.injEq] at h
      obtain ⟨-, -, rfl⟩ := h
      rw [hdrop, List.length_cons] at hle
      omega
    · simp at h
  · simp at h

theorem length_of_nextTag? {ready : Bool} {text before name rest : List Char} {blank : Char}
    (h : nextTag? ready text = some (before, name, blank, rest)) :
    rest.length < text.length := by
  induction text generalizing ready before with
  | nil => simp [nextTag?] at h
  | cons c tail ih =>
    have hlater : ∀ {b}, (nextTag? (isBlank c) tail).map (fun (before, tag) => (c :: before, tag))
        = some (b, name, blank, rest) → rest.length < (c :: tail).length := by
      intro b hb
      obtain ⟨⟨b', t⟩, hnext, heq⟩ := Option.map_eq_some_iff.1 hb
      simp only [Prod.mk.injEq] at heq
      obtain ⟨-, rfl⟩ := heq
      have := ih hnext
      simp only [List.length_cons]
      omega
    simp only [nextTag?] at h
    split at h
    · split at h
      · next tag htag =>
        simp only [Option.some.injEq, Prod.mk.injEq] at h
        obtain ⟨-, rfl⟩ := h
        have := length_of_tagName? htag
        simp only [List.length_cons]
        omega
      · exact hlater h
    · exact hlater h

/-- Cuts a text at its tags. -/
def read (ready : Bool) (text : List Char) : Cut :=
  match _h : nextTag? ready text with
  | none => ⟨text, []⟩
  | some (before, name, blank, rest) =>
    let inner := read false rest
    ⟨before, ⟨name, blank, inner.leading⟩ :: inner.tags⟩
termination_by text.length
decreasing_by exact length_of_nextTag? _h

end Cut

-- ==================================================== body and fields

/-- Documentation as body text and field-list lines. -/
structure NatSpec where
  body : List String := []
  fields : List String := []
deriving DecidableEq, Repr, Inhabited

namespace NatSpec

instance : Append NatSpec where
  append a b := ⟨a.body ++ b.body, a.fields ++ b.fields⟩

/-- Plain text: a line that starts with a colon is a field already. -/
def ofBody (text : List Char) : NatSpec :=
  let (fields, body) := (lines (trim text)).partition (·.head? = some ':')
  ⟨body.map String.ofList, fields.map String.ofList⟩

/-- The text of a field. A single line loses a dash before it, and further lines are indented
below the first. -/
def payloadText (text : List Char) : String :=
  let found := match lines (trim text) with
    | [line] => [trimStart ((afterLead ['-'] line).getD line)]
    | found => found
  "\n   ".intercalate (found.map String.ofList)

/-- A field with a name and a text. -/
def field (name : String) (text : List Char) : NatSpec :=
  { fields := [":" ++ name ++ ": " ++ payloadText text] }

/-- The text of a JSON value: a string stands for itself. -/
def valueText : Json → String
  | .string text => text
  | value => value.compact

/-- How deep the objects of a `return` payload may nest. -/
def maxDepth : Nat := 127

/-- What one tag contributes. A `return` payload that is a JSON object gives a field for each
of its keys. -/
def ofTag (tag : Tag) : NatSpec :=
  let payload := tag.payload
  match String.ofList tag.name with
  | "dev" => ofBody payload
  | "param" =>
    let payload := trimStart payload
    let name := payload.takeWhile (!isBlank ·)
    field ("param " ++ String.ofList name) (payload.dropWhile (!isBlank ·))
  | "return" =>
    match Json.read? maxDepth payload with
    | some (.object fields) =>
      fields.foldl (fun spec (name, value) =>
        spec ++ field ("return " ++ name) (valueText value).toList) {}
    | _ => field "return" payload
  | name => field name payload

/-- Reads a documentation text: the tags in order, then the text before them. -/
def read (doc : String) : NatSpec :=
  let cut := Cut.read true doc.toList
  (cut.tags.map ofTag).foldl (· ++ ·) {} ++ ofBody cut.leading

/-- Nothing to show. -/
def isEmpty (spec : NatSpec) : Bool :=
  spec.body.isEmpty && spec.fields.isEmpty

/-- The body and the fields, with an empty line between them. -/
def toLines (spec : NatSpec) : List String :=
  let gap := if spec.body.isEmpty || spec.fields.isEmpty then [] else [""]
  spec.body ++ gap ++ spec.fields

/-- A documentation text as body and fields. -/
def render (doc : String) : String :=
  "\n".intercalate (read doc).toLines

end NatSpec

end ContractDocs
