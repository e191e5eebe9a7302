/-
A documentation text in its pieces. The sites that begin its tags cut it
into the text before the first tag and the payloads, slice by slice and
without a gap (`Found.flatMap_text_ofSites`), and what is read of it is what
the pieces contribute, tag by tag and the leading text last
(`read_partitions_text`).

What a piece contributes is said here by the piece alone (`Tag.body`,
`Tag.fields`): lines of plain text, fields written by hand, one field for
every entry of an object, or one field.
-/
import ContractDocs.Proofs.Docs.Tags

namespace ContractDocs

open Text

/-- A tag as it is written. -/
def Tag.text (tag : Tag) : List Char :=
  '@' :: (tag.name ++ tag.blank :: tag.payload)

namespace Cut

-- ======================================================== slice by slice

variable {doc : List Char}

theorem slice_append_drop {start stop : Nat} (h : start ≤ stop) :
    slice doc start stop ++ doc.drop stop = doc.drop start := by
  have hstop : doc.drop stop = (doc.drop start).drop (stop - start) := by
    rw [List.drop_drop, Nat.add_sub_cancel' h]
  rw [slice, hstop, List.take_append_drop]

namespace Found

variable {origin : Nat} {sites : List (Site doc)}

/-- One search finds one list of sites. -/
theorem unique (h : Found doc origin sites) {others : List (Site doc)}
    (hothers : Found doc origin others) : sites = others := by
  induction h generalizing others with
  | done none =>
      cases hothers with
      | done => rfl
      | next behind => exact absurd behind (none _)
  | @next origin p ps behind first rest ih =>
      cases hothers with
      | done none => exact absurd behind (none p)
      | @next _ q qs behind' first' rest' =>
          have hstart := Nat.le_antisymm (first q behind') (first' p behind)
          cases Site.eq_of_start hstart
          rw [ih rest']

/-- Every head ends before the next begins. -/
theorem pairwise (h : Found doc origin sites) :
    sites.Pairwise fun p q => p.stop < q.start := by
  induction h with
  | done => exact .nil
  | @next origin p ps behind first rest ih =>
      refine .cons (fun q hq => ?_) ih
      have hp := p.start_lt_stop
      exact (rest.behind_of_mem hq).resolve_left (by omega)

/-- The pieces side by side are the text. -/
theorem flatMap_text_ofSites (h : Found doc origin sites) :
    (ofSites doc origin sites).leading
        ++ (ofSites doc origin sites).tags.flatMap Tag.text
      = doc.drop origin := by
  induction h with
  | done =>
      simp only [ofSites, slice, List.flatMap_nil, List.append_nil]
      exact List.take_of_length_le (by rw [List.length_drop])
  | @next origin p ps behind first rest ih =>
      have hrest : Tag.text ⟨p.head.name, p.head.blank, (ofSites doc p.stop ps).leading⟩
            ++ (ofSites doc p.stop ps).tags.flatMap Tag.text
          = doc.drop p.start := by
        rw [p.drop_start, ← p.drop_stop, ← ih]
        simp [Tag.text, Head.text]
      rw [ofSites, List.flatMap_cons, hrest, slice_append_drop behind.le_start]

end Found

end Cut

-- ======================================================== contributions

namespace NatSpec

/-- The lines of a text that are fields already. -/
def colonLines (text : List Char) : List String :=
  ((lines (trim text)).filter (·.head? = some ':')).map String.ofList

/-- The other lines of a text. -/
def plainLines (text : List Char) : List String :=
  ((lines (trim text)).filter (·.head? ≠ some ':')).map String.ofList

theorem ofBody_eq (text : List Char) : ofBody text = ⟨plainLines text, colonLines text⟩ := by
  have hnot : (not ∘ fun line : List Char => decide (line.head? = some ':'))
      = fun line => decide (line.head? ≠ some ':') := by
    funext line
    simp
  rw [ofBody, List.partition_eq_filter_filter, hnot]
  rfl

theorem append_eq (a b : NatSpec) : a ++ b = ⟨a.body ++ b.body, a.fields ++ b.fields⟩ :=
  rfl

theorem foldl_append (specs : List NatSpec) (spec : NatSpec) :
    specs.foldl (· ++ ·) spec
      = ⟨spec.body ++ specs.flatMap body, spec.fields ++ specs.flatMap fields⟩ := by
  induction specs generalizing spec with
  | nil => simp
  | cons s specs ih =>
      rw [List.foldl_cons, ih, append_eq]
      simp

/-- A field with its name. -/
def fieldLine (name : String) (text : List Char) : String :=
  ":" ++ name ++ ": " ++ payloadText text

theorem field_eq (name : String) (text : List Char) :
    field name text = ⟨[], [fieldLine name text]⟩ :=
  rfl

theorem foldl_append_field {α : Type} (name : α → String) (text : α → List Char)
    (entries : List α) (spec : NatSpec) :
    entries.foldl (fun spec entry => spec ++ field (name entry) (text entry)) spec
      = ⟨spec.body, spec.fields ++ entries.map fun entry =>
        fieldLine (name entry) (text entry)⟩ := by
  induction entries generalizing spec with
  | nil => simp
  | cons entry entries ih =>
      rw [List.foldl_cons, ih, field_eq, append_eq]
      simp

end NatSpec

namespace Tag

open NatSpec

/-- The entries of a `return` tag whose payload is a JSON object. -/
def entries? (tag : Tag) : Option (List (String × Json)) :=
  if tag.name = "return".toList then
    match Json.read? maxDepth tag.payload with
    | some (.object entries) => some entries
    | _ => none
  else none

/-- The field of any other tag. Of a `param` tag the first word of the payload belongs to the
name. -/
def field (tag : Tag) : String :=
  if tag.name = "param".toList then
    let payload := trimStart tag.payload
    fieldLine ("param " ++ String.ofList (payload.takeWhile (!isBlank ·)))
      (payload.dropWhile (!isBlank ·))
  else fieldLine (String.ofList tag.name) tag.payload

/-- What a tag contributes to the body. -/
def body (tag : Tag) : List String :=
  if tag.name = "dev".toList then plainLines tag.payload else []

/-- What a tag contributes to the fields. -/
def fields (tag : Tag) : List String :=
  if tag.name = "dev".toList then colonLines tag.payload
  else match tag.entries? with
    | some entries => entries.map fun entry =>
        fieldLine ("return " ++ entry.1) (valueText entry.2).toList
    | none => [tag.field]

end Tag

/-- A tag contributes its body lines and its fields. -/
theorem NatSpec.ofTag_eq (tag : Tag) : ofTag tag = ⟨tag.body, tag.fields⟩ := by
  have hname : ∀ {name : String}, String.ofList tag.name = name ↔ tag.name = name.toList := by
    intro name
    rw [← String.toList_inj, String.toList_ofList]
  simp only [ofTag]
  split
  · next hdev =>
    rw [hname] at hdev
    rw [ofBody_eq, Tag.body, Tag.fields, if_pos hdev, if_pos hdev]
  · next hparam =>
    rw [hname] at hparam
    simp [field_eq, Tag.body, Tag.fields, Tag.entries?, Tag.field, hparam]
  · next hreturn =>
    rw [hname] at hreturn
    have hdev : tag.name ≠ "dev".toList := by rw [hreturn]; decide
    have hparam : tag.name ≠ "param".toList := by rw [hreturn]; decide
    rw [Tag.body, Tag.fields, if_neg hdev, if_neg hdev]
    split
    · next entries hread =>
      have hsome : tag.entries? = some entries := by
        rw [Tag.entries?, if_pos hreturn, hread]
      rw [hsome]
      exact foldl_append_field _ _ _ _
    · next hother =>
      have hnone : tag.entries? = none := by
        rw [Tag.entries?, if_pos hreturn]
        split
        · next entries hread => exact absurd hread (hother entries)
        · rfl
      rw [hnone, Tag.field, if_neg hparam, hreturn, field_eq, String.ofList_toList]
  · next hdev hparam hreturn =>
    rw [hname] at hdev hparam hreturn
    rw [Tag.body, Tag.fields, if_neg hdev, if_neg hdev, Tag.entries?, if_neg hreturn,
      Tag.field, if_neg hparam, field_eq]

/-- What is read of a text is what its pieces contribute. -/
theorem NatSpec.read_eq (doc : String) :
    read doc = ⟨(Cut.read true doc.toList).tags.flatMap Tag.body
        ++ plainLines (Cut.read true doc.toList).leading,
      (Cut.read true doc.toList).tags.flatMap Tag.fields
        ++ colonLines (Cut.read true doc.toList).leading⟩ := by
  rw [read, List.map_congr_left fun tag _ => ofTag_eq tag, foldl_append, ofBody_eq,
    append_eq, List.flatMap_map, List.flatMap_map]
  rfl

/-- A documentation text is its leading text and its tags, side by side: the
slices between the sites that are found, which neither overlap nor leave the
text. Its body is what the tags contribute and then the plain lines of the
leading text; its fields likewise. -/
theorem NatSpec.read_partitions_text (doc : String) :
    ∃! sites : List (Cut.Site doc.toList), Cut.Found doc.toList 0 sites
      ∧ (sites.Pairwise fun p q => p.stop < q.start)
      ∧ (∀ p ∈ sites, p.start < p.stop ∧ p.stop ≤ doc.toList.length)
      ∧ let cut := Cut.ofSites doc.toList 0 sites
        doc.toList = cut.leading ++ cut.tags.flatMap Tag.text
        ∧ (read doc).body = cut.tags.flatMap Tag.body ++ plainLines cut.leading
        ∧ (read doc).fields = cut.tags.flatMap Tag.fields ++ colonLines cut.leading := by
  obtain ⟨sites, hfound, hread⟩ := Cut.exists_found doc.toList (List.nil_append _).symm
  refine ⟨sites, ⟨hfound, hfound.pairwise, fun p _ => ⟨p.start_lt_stop, p.stop_le_length⟩,
    hfound.flatMap_text_ofSites.symm, ?_⟩, fun others hothers => hothers.1.unique hfound⟩
  have hread : Cut.read true doc.toList = Cut.ofSites doc.toList 0 sites := hread
  rw [read_eq, hread]
  exact ⟨rfl, rfl⟩

/-- Hand-written fields of the leading text come last, and so does its other
text. -/
example : NatSpec.read "Sum.\n:see: x\n@return \x7b\"b\": 1, \"a\": \"y\"\x7d @dev Adds."
    = ⟨["Adds.", "Sum."], [":return b: 1", ":return a: y", ":see: x"]⟩ := by
  decide +kernel

end ContractDocs
