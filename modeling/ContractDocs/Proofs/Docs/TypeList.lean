/-
The type list of a target, written and read. A record writes its parameter
types joined by commas; the target that is read from it has these types
again exactly when they are a `Cut` of their list and each is what a target
makes of it (`ReadsBack`, `readTypes_written_iff`).

That nothing weaker will do is a count of tokens. Reading a type drops its
last token when that is a location keyword, and never adds one, so types
that come back as they were have lost no token and no comma: the entries
that were found have the tokens of the types, one by one.
-/
import ContractDocs.Docs.Target
import ContractDocs.Proofs.Signature.Slot
import ContractDocs.Proofs.Signature.Grouping
import ContractDocs.Proofs.Text.Cuts

namespace ContractDocs.Target

open Text Grouping

-- ============================================================= one type

/-- A type that is read keeps its tokens, or loses the last one. -/
theorem tokens_overloadType (entry : List Char) :
    tokens (overloadType entry).toList <+: tokens entry := by
  have hplain : tokens (Param.ofText (String.ofList entry) none none).overloadType.toList
      = tokens entry := by
    simp [Param.ofText, Param.overloadType, TypeName.canonical,
      TypeName.tokens_canonicalChars]
  unfold overloadType
  split
  · next type last hcut =>
      split
      · next hloc =>
          obtain ⟨rfl, -⟩ := cutLast_eq_some_iff.1 hcut
          have htype : tokens (TypeName.canonicalChars type) = tokens type :=
            TypeName.tokens_canonicalChars type
          rw [tokens_append_blank isBlank_space]
          by_cases hstorage : String.ofList last = "storage"
          · have hlast : last = "storage".toList := by
              rw [← hstorage, String.toList_ofList]
            have hstored : (Param.ofText (String.ofList type)
                (some (String.ofList last)) none).overloadType.toList
                = TypeName.canonicalChars type ++ ' ' :: last := by
              simp [Param.ofText, Param.overloadType, TypeName.canonical, hlast]
            rw [hstored, tokens_append_blank isBlank_space]
            exact htype ▸ List.prefix_rfl
          · have hdropped : (Param.ofText (String.ofList type)
                (some (String.ofList last)) none).overloadType.toList
                = TypeName.canonicalChars type := by
              simp [Param.ofText, Param.overloadType, TypeName.canonical, hstorage]
            rw [hdropped, htype]
            exact List.prefix_append _ _
      · exact hplain ▸ List.prefix_rfl
  · exact hplain ▸ List.prefix_rfl

-- ============================================================= the list

/-- Types that a target reads as they are written. -/
structure ReadsBack (types : List String) : Prop where
  cut : Cut (types.map String.toList)
  entry : ∀ type ∈ types, tokens type.toList ≠ []
    ∧ overloadType (collapse type.toList) = type

/-- What stands behind the name of an overloadable record. -/
def writtenTypes (types : List String) : List Char :=
  [','].intercalate (types.map String.toList)

/-- The closing parenthesis is taken off, whatever blanks stand in front. -/
theorem readTypes_concat (list : List Char) :
    readTypes (list ++ [')']) = (splitTopLevelChars list).map overloadType := by
  obtain ⟨b, hb, hlist⟩ := trimStart_cut list
  have hsplit : splitTopLevelChars list = splitTopLevelChars (trimStart list) := by
    unfold splitTopLevelChars
    conv_lhs => rw [hlist, map_collapse_pieces_blanks hb]
  unfold readTypes
  rw [trim_concat (by decide), hsplit]
  simp

/-- A joined list has the characters of its pieces. -/
theorem mem_intercalate_of_mem {c : Char} {p : List Char} {ps : List (List Char)}
    (hp : p ∈ ps) (hc : c ∈ p) : c ∈ [','].intercalate ps := by
  induction ps with
  | nil => cases hp
  | cons q qs ih =>
      by_cases hqs : qs = []
      · subst hqs
        rw [List.mem_singleton.1 hp] at hc
        simpa using hc
      · rw [List.intercalate_cons_of_ne_nil hqs, List.mem_append, List.mem_append]
        rcases List.mem_cons.1 hp with rfl | hp
        · exact .inl (.inl hc)
        · exact .inr (ih hp)

/-- What is read of a list of types stands in it, blanks apart. -/
theorem mem_of_mem_readTypes {list : List Char} {type : String} {c : Char}
    (htype : type ∈ readTypes list) (hc : c ∈ type.toList)
    (hb : isBlank c = false) : c ∈ list := by
  have hentry : ∀ {e s : List Char}, e ∈ splitTopLevelChars s → c ∈ e → c ∈ s := by
    intro e s he hce
    obtain ⟨p, hp, rfl⟩ := List.mem_map.1 (List.mem_filter.1 he).1
    have hcp : c ∈ p := mem_of_tokens_eq (tokens_collapse p) hce hb
    have hjoined := mem_intercalate_of_mem hp hcp
    rwa [intercalate_pieces, List.reverse_nil, List.nil_append] at hjoined
  obtain ⟨e, he, rfl⟩ := List.mem_map.1 htype
  have hce : c ∈ e := by
    obtain ⟨t, ht, hct⟩ := exists_mem_token hc hb
    exact mem_of_mem_token ((tokens_overloadType e).subset ht) hct
  have htrim : c ∈ trim list := by
    have hcs := hentry he hce
    split at hcs
    · exact List.dropLast_subset _ hcs
    · exact hcs
  exact mem_of_tokens_eq (tokens_trim list) htrim hb

theorem tokens_append_comma (x y : List Char) :
    tokens (x ++ ',' :: y) = tokens x ++ [','] :: tokens y := by
  have hx : glued x (',' :: y) = false := by
    rw [glued, startsWord_cons, show isWord ',' = false by decide, Bool.and_false]
  have hy : glued [','] y = false := by
    rw [glued_singleton, show isWord ',' = false by decide, Bool.false_and]
  rw [tokens_append hx, tokens_cons_single (by decide) hy]

/-- A joined list has the tokens of its pieces and one for every comma. -/
theorem length_tokens_intercalate {ps : List (List Char)} (hne : ps ≠ []) :
    (tokens ([','].intercalate ps)).length + 1
      = (ps.flatMap tokens).length + ps.length := by
  induction ps with
  | nil => exact absurd rfl hne
  | cons p ps ih =>
      cases ps with
      | nil => simp
      | cons q qs =>
          have ih := ih (List.cons_ne_nil q qs)
          rw [List.intercalate_cons_cons, List.append_assoc, List.singleton_append,
            tokens_append_comma, List.flatMap_cons]
          simp only [List.length_append, List.length_cons] at ih ⊢
          omega

/-- The entries of a list have all its tokens but the commas between them. -/
theorem length_tokens_splitTopLevelChars (s : List Char) :
    ((splitTopLevelChars s).flatMap tokens).length + (splitTopLevelChars s).length
      ≤ (tokens s).length + 1 := by
  have hentries : ∀ ps : List (List Char),
      ((ps.map collapse).filter (!·.isEmpty)).flatMap tokens = ps.flatMap tokens := by
    intro ps
    induction ps with
    | nil => rfl
    | cons p ps ih =>
        rw [List.map_cons, List.flatMap_cons, ← tokens_collapse p, ← ih]
        cases collapse p with
        | nil => rfl
        | cons c x => rfl
  have hcount : (splitTopLevelChars s).length ≤ (pieces 0 [] s).length := by
    refine (List.length_filter_le _ _).trans ?_
    rw [List.length_map]
  have hpieces := length_tokens_intercalate (pieces_ne_nil s 0 [])
  rw [intercalate_pieces, List.reverse_nil, List.nil_append] at hpieces
  have hsame : (splitTopLevelChars s).flatMap tokens = (pieces 0 [] s).flatMap tokens :=
    hentries _
  rw [hsame]
  omega

/-- Where no token is lost in total, none is lost anywhere. -/
theorem tokens_eq_of_length {es : List (List Char)} {f : List Char → List Char}
    (hf : ∀ e, tokens (f e) <+: tokens e) :
    ((es.map f).flatMap tokens).length ≤ (es.flatMap tokens).length
      ∧ ((es.flatMap tokens).length ≤ ((es.map f).flatMap tokens).length →
        ∀ e ∈ es, tokens (f e) = tokens e) := by
  induction es with
  | nil => simp
  | cons e es ih =>
      obtain ⟨hle, heq⟩ := ih
      have hlen := (hf e).length_le
      simp only [List.map_cons, List.flatMap_cons, List.length_append]
      refine ⟨by omega, fun h d hd => ?_⟩
      rcases List.mem_cons.1 hd with rfl | hd
      · exact (hf d).eq_of_length (by omega)
      · exact heq (by omega) d hd

theorem splitTopLevelChars_written {types : List String}
    (hcut : Cut (types.map String.toList))
    (hne : ∀ type ∈ types, tokens type.toList ≠ []) :
    splitTopLevelChars (writtenTypes types)
      = types.map fun type => collapse type.toList := by
  have hgap : isBlankText [] = true := rfl
  have hpieces : ∀ p ∈ types.map String.toList, tokens p ≠ [] := by
    intro p hp
    obtain ⟨type, htype, rfl⟩ := List.mem_map.1 hp
    exact hne type htype
  unfold writtenTypes
  rw [splitTopLevelChars_intercalate_of_ne hgap hcut hpieces, List.map_map]
  rfl

/-- Types that come back from their list have the tokens of its entries. -/
theorem tokens_eq_of_readTypes {types : List String}
    (h : (splitTopLevelChars (writtenTypes types)).map overloadType = types) :
    ∀ e ∈ splitTopLevelChars (writtenTypes types),
      tokens (overloadType e).toList = tokens e := by
  by_cases hnil : types = []
  · subst hnil
    intro e he
    cases he
  · have hlength : (splitTopLevelChars (writtenTypes types)).length = types.length := by
      conv_rhs => rw [← h, List.length_map]
    have hmap : (splitTopLevelChars (writtenTypes types)).map
        (fun e => (overloadType e).toList) = types.map String.toList := by
      conv_rhs => rw [← h, List.map_map]
      rfl
    have hne : types.map String.toList ≠ [] := by simpa using hnil
    have hwritten := length_tokens_intercalate hne
    have hcount := length_tokens_splitTopLevelChars (writtenTypes types)
    refine (tokens_eq_of_length tokens_overloadType).2 ?_
    rw [hmap]
    rw [List.length_map, ← writtenTypes] at hwritten
    omega

/-- Types come back from their list exactly when they read back. -/
theorem readTypes_written_iff {types : List String} :
    readTypes (writtenTypes types ++ [')']) = types ↔ ReadsBack types := by
  rw [readTypes_concat]
  constructor
  · intro h
    have htokens := tokens_eq_of_readTypes h
    have hcut : Cut (types.map String.toList) := by
      refine Cut.respelled ?_ (cut_splitTopLevelChars (writtenTypes types))
      conv => arg 3; rw [← h]
      rw [List.forall₂_map_right_iff, List.forall₂_map_right_iff, List.forall₂_same]
      exact htokens
    have hne : ∀ type ∈ types, tokens type.toList ≠ [] := by
      intro type htype
      rw [← h] at htype
      obtain ⟨e, he, rfl⟩ := List.mem_map.1 htype
      rw [htokens e he]
      exact (mem_splitTopLevelChars he).2.2
    -- now the entries are known to be the types, collapsed
    rw [splitTopLevelChars_written hcut hne, List.map_map] at h
    refine ⟨hcut, fun type htype => ⟨hne type htype, ?_⟩⟩
    exact List.map_inj_left.1 (h.trans (List.map_id types).symm) type htype
  · intro h
    rw [splitTopLevelChars_written h.cut fun type htype => (h.entry type htype).1,
      List.map_map]
    conv_rhs => rw [← List.map_id types]
    exact List.map_congr_left fun type htype => (h.entry type htype).2

/-- Types that are balanced, are one entry each and stay what they are when a
target reads them. -/
theorem readsBack_of_entries {types : List String}
    (h : ∀ type ∈ types, net type.toList = 0 ∧ splitTopLevel type = [type]
      ∧ overloadType type.toList = type) : ReadsBack types := by
  have hentry := fun type htype => entry_of_splitTopLevel (h type htype).2.1
  refine ⟨⟨fun p hp => ?_, fun p hp => ?_⟩, fun type htype => ⟨?_, ?_⟩⟩
  · obtain ⟨type, htype, rfl⟩ := List.mem_map.1 hp
    exact (hentry type htype).1
  · obtain ⟨type, htype, rfl⟩ := List.mem_map.1 (List.dropLast_subset _ hp)
    exact (h type htype).1
  · exact (hentry type htype).2.2
  · rw [(hentry type htype).2.1]
    exact (h type htype).2.2

end ContractDocs.Target
