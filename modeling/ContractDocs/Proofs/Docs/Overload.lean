/-
The overload type of a nameless parameter, as a target and as a header read
it from the same text.

A header finds the location by its tokens: the keyword may follow a symbol
without a blank, as in `uint[]memory`. A target cuts at the last space, so
there it sees no location, and takes the keyword for a part of the type. That
is the only difference. Where the keyword stands behind a space both cut the
text at the same place (`overloadType_of_spaced`), and where the parameter
has no location the target finds none, since a keyword behind a space would
have been one (`overloadType_of_no_location`). A keyword that is glued to the
type is spelled right behind it (`overloadType_of_glued`), which no overload
type of the parameter is.
-/
import ContractDocs.Docs.Target
import ContractDocs.Proofs.Signature.Division
import ContractDocs.Proofs.Text.Cuts

namespace ContractDocs

open Text

-- ================================================= the cut of a target

namespace Target

/-- A keyword behind a space is the location. -/
theorem overloadType_append {type last : List Char} (h : Slot.isLocation last = true) :
    overloadType (type ++ ' ' :: last)
      = (Param.ofText (String.ofList type) (some (String.ofList last)) none).overloadType := by
  have hspace : ' ' ∉ last := fun hmem =>
    absurd ((Slot.isWord_of_isLocation h).2 ' ' hmem) (by decide)
  have hcontains : locationKeywords.contains (String.ofList last) = true := h
  unfold overloadType
  rw [cutLast_append hspace]
  dsimp only
  rw [if_pos hcontains]

/-- Without one the whole entry is the type. -/
theorem overloadType_of_no_keyword {entry : List Char}
    (h : ∀ type last, entry = type ++ ' ' :: last → Slot.isLocation last = false) :
    overloadType entry = TypeName.canonical (String.ofList entry) := by
  unfold overloadType
  split
  · next type last hcut =>
      have hlast : locationKeywords.contains (String.ofList last) = false :=
        h type last (cutLast_eq_some_iff.1 hcut).1
      rw [hlast]
      rfl
  · rfl

end Target

-- ============================================== nameless parameters

namespace Slot

/-- Behind the type of a nameless slot stands its location, and nothing
else. -/
theorem suffixOf_nameless {ts : List (List Char)} {location : Option String}
    (h : suffixOf ts = some (location, none)) :
    ts = location.toList.map String.toList
      ∧ ∀ l ∈ location, isLocation l.toList = true := by
  match ts with
  | [] =>
      cases h
      exact ⟨rfl, fun l hl => by cases hl⟩
  | [w] =>
      rw [suffixOf_single] at h
      split at h
      · next hloc =>
          cases h
          refine ⟨by simp, fun l hl => ?_⟩
          cases hl
          rwa [String.toList_ofList]
      · split at h
        · cases h
        · cases h
  | [k, w] =>
      rw [suffixOf_pair] at h
      split at h
      · cases h
      · cases h
  | k :: w :: v :: more => simp [suffixOf, nameOf] at h

namespace Reads

variable {text rest : List Char} {slot : Slot}

/-- Behind a type that ends in a word, a last word of a collapsed text stands
behind a space. -/
theorem eq_append_space (h : Reads text slot rest) (hcollapsed : collapse text = text)
    {w : List Char} (hw : ∀ c ∈ w, isWord c = true) (hrest : tokens rest = [w])
    (hends : endsWord slot.typeText = true) : ∃ type, text = type ++ ' ' :: w := by
  have hsplit := h.split
  rw [trimStart_of_collapse hcollapsed] at hsplit
  have hparted := h.parted
  rw [glued, hends, Bool.true_and] at hparted
  cases rest with
  | nil => cases hrest
  | cons b rest =>
      rw [startsWord_cons] at hparted
      have hb : isBlank b = true := by
        by_contra hblank
        rw [Bool.not_eq_true] at hblank
        obtain ⟨t, ht, hbt⟩ := exists_mem_token (List.mem_cons_self (a := b) (l := rest)) hblank
        rw [hrest, List.mem_singleton] at ht
        rw [hw b (ht ▸ hbt)] at hparted
        cases hparted
      have hspace : b = ' ' := by
        have hmem : b ∈ collapse text := by
          rw [hcollapsed, hsplit]
          simp
        exact onlySpaces_collapse text b hmem hb
      rw [tokens_cons_blank hb] at hrest
      rw [hsplit, hspace] at hcollapsed ⊢
      exact ⟨_, eq_append_of_collapse hcollapsed hrest⟩

end Reads

end Slot

-- ================================================== the three cases

namespace Target

variable {text rest : List Char} {slot : Slot}

/-- A parameter without a location is one for the target too. -/
theorem overloadType_of_no_location (h : Slot.Reads text slot rest)
    (hcollapsed : collapse text = text) (hname : slot.name = none)
    (hlocation : slot.location = none) :
    overloadType text = TypeName.canonical (String.ofList slot.typeText) := by
  have hspaces : OnlySpaces text := hcollapsed ▸ onlySpaces_collapse text
  obtain ⟨hrest, -⟩ := Slot.suffixOf_nameless (hname ▸ h.suffix)
  rw [hlocation] at hrest
  have htokens : tokens text = tokens slot.typeText := by
    rw [h.tokens_eq, hrest]
    exact List.append_nil _
  rw [overloadType_of_no_keyword, TypeName.canonical, TypeName.canonical,
    String.toList_ofList, String.toList_ofList,
    TypeName.canonicalChars_eq_of_tokens_eq hspaces (h.onlySpaces_typeText hspaces) htokens]
  intro type last htext
  by_contra hlast
  rw [Bool.not_eq_false] at hlast
  obtain ⟨hne, hword⟩ := Slot.isWord_of_isLocation hlast
  -- the keyword would have been a suffix, and the type would have stopped before it
  have hcut : tokens slot.typeText = tokens type ++ [last] := by
    rw [← htokens, htext, tokens_append_blank isBlank_space, tokens_word hne hword]
  have htype : tokens type ≠ [] :=
    tokens_ne_nil_of_collapse (htext ▸ hcollapsed) isBlank_space
  have hnone := h.suffixOf_of_cut hcut htype (List.cons_ne_nil _ _)
  have hsome : Slot.suffixOf [last] = some (some (String.ofList last), none) := by
    rw [Slot.suffixOf_single, if_pos hlast]
  rw [hrest] at hnone
  exact absurd (hsome.symm.trans hnone) (Option.some_ne_none _)

/-- A location behind a space is where the target cuts. -/
theorem overloadType_of_spaced (h : Slot.Reads text slot rest)
    (hcollapsed : collapse text = text) {type w : List Char}
    (hw : Slot.isLocation w = true) (hrest : tokens rest = [w])
    (htext : text = type ++ ' ' :: w) :
    overloadType text = (Param.ofText (String.ofList slot.typeText)
      (some (String.ofList w)) none).overloadType := by
  have hspaces : OnlySpaces text := hcollapsed ▸ onlySpaces_collapse text
  obtain ⟨hne, hword⟩ := Slot.isWord_of_isLocation hw
  have htype : tokens type = tokens slot.typeText := by
    have htokens := h.tokens_eq
    rw [htext, tokens_append_blank isBlank_space, tokens_word hne hword, hrest] at htokens
    exact List.append_cancel_right htokens
  have hsub : OnlySpaces type := fun c hc =>
    hspaces c (by rw [htext]; exact List.mem_append_left _ hc)
  have hspell := TypeName.canonicalChars_eq_of_tokens_eq hsub
    (h.onlySpaces_typeText hspaces) htype
  rw [htext, overloadType_append hw, Param.ofText, Param.ofText, TypeName.canonical,
    TypeName.canonical, String.toList_ofList, String.toList_ofList, hspell]

/-- A location that is glued to its type is spelled as the end of it. -/
theorem overloadType_of_glued (h : Slot.Reads text slot rest)
    (hcollapsed : collapse text = text) {w : List Char}
    (hw : Slot.isLocation w = true) (hrest : tokens rest = [w])
    (hglued : ∀ type, text ≠ type ++ ' ' :: w) :
    overloadType text
      = TypeName.canonical (String.ofList slot.typeText) ++ String.ofList w := by
  have hspaces : OnlySpaces text := hcollapsed ▸ onlySpaces_collapse text
  obtain ⟨hne, hword⟩ := Slot.isWord_of_isLocation hw
  have htokens : tokens text = tokens slot.typeText ++ [w] := by
    rw [h.tokens_eq, hrest]
  have hplain : overloadType text = TypeName.canonical (String.ofList text) := by
    refine overloadType_of_no_keyword fun type last htext => ?_
    by_contra hlast
    rw [Bool.not_eq_false] at hlast
    obtain ⟨hne', hword'⟩ := Slot.isWord_of_isLocation hlast
    have hlasts := htokens
    rw [htext, tokens_append_blank isBlank_space, tokens_word hne' hword'] at hlasts
    obtain ⟨-, hsame⟩ := List.append_inj' hlasts rfl
    cases hsame
    exact hglued type htext
  have hsymbol : (tokens slot.typeText).getLast?.any endsWord = false := by
    by_contra hends
    rw [Bool.not_eq_false, ← endsWord_eq_of_endsBlank h.endsBlank_typeText] at hends
    obtain ⟨type, htype⟩ := h.eq_append_space hcollapsed hword hrest hends
    exact hglued type htype
  have hspell := TypeName.canonicalChars_concat_word (h.onlySpaces_typeText hspaces)
    hspaces htokens hne hword
  rw [hsymbol, if_neg Bool.false_ne_true] at hspell
  rw [hplain, TypeName.canonical, TypeName.canonical, String.toList_ofList,
    String.toList_ofList, hspell, String.ofList_append]

end Target

-- ====================================================== both readings

namespace Param

/-- The location of the parameter, if it has one, stands in the text behind a
space. -/
def SpacedIn (param : Param) (text : String) : Prop :=
  ∀ keyword ∈ param.location, ∃ type, text = type ++ " " ++ keyword

theorem spacedIn_iff {param : Param} {keyword : String}
    (h : param.location = some keyword) (text : String) :
    param.SpacedIn text ↔ ∃ type, text.toList = type ++ ' ' :: keyword.toList := by
  unfold SpacedIn
  rw [h]
  constructor
  · intro hspaced
    obtain ⟨type, htext⟩ := hspaced keyword rfl
    exact ⟨type.toList, by rw [htext]; simp⟩
  · intro ⟨type, htext⟩ keyword' hkeyword
    cases hkeyword
    refine ⟨String.ofList type, ?_⟩
    rw [← String.toList_inj, htext]
    simp

/-- No overload type has a word right behind the type. -/
theorem append_ne_overloadType (param : Param) {keyword : String} (h : IsName keyword) :
    param.typeName ++ keyword ≠ param.overloadType := by
  unfold overloadType
  intro heq
  have heq := congrArg String.toList heq
  split at heq
  · rw [String.toList_append, String.toList_append, List.append_cancel_left_eq] at heq
    exact absurd (h.isWord ' ' (heq ▸ by decide)) (by decide)
  · rw [String.toList_append, List.append_right_eq_self] at heq
    exact h.ne_nil heq

end Param

/-- A target and a header read the same overload type from the text of a
nameless parameter exactly when its location, if it has one, stands behind a
space. Otherwise the location is glued to the type, and to the target it is
the end of the type. -/
theorem overload_types_agree_iff (text : String) (param : Param)
    (hcollapsed : collapse text.toList = text.toList)
    (hread : Param.read text = some param) (hname : param.name = none) :
    (Target.overloadType text.toList = param.overloadType ↔ param.SpacedIn text)
      ∧ (¬ param.SpacedIn text →
        Target.overloadType text.toList = param.typeName ++ param.location.getD "") := by
  obtain ⟨slot, hslot, hparam⟩ := Option.map_eq_some_iff.1 hread
  subst hparam
  have hne : tokens text.toList ≠ [] := by
    intro hnil
    rw [← collapse_eq_nil_iff, hcollapsed] at hnil
    rw [hnil] at hslot
    cases hslot
  obtain ⟨rest, hreads⟩ := Slot.reads_of_read hslot hne
  have hnameless : slot.name = none := hname
  obtain ⟨hrest, hlocation⟩ := Slot.suffixOf_nameless (hnameless ▸ hreads.suffix)
  cases hloc : slot.location with
  | none =>
      have hspaced : (Param.ofText (String.ofList slot.typeText) none slot.name).SpacedIn text :=
        fun keyword hkeyword => by cases hkeyword
      have hagree := Target.overloadType_of_no_location hreads hcollapsed hnameless hloc
      exact ⟨⟨fun _ => hspaced, fun _ => hagree⟩, fun hglued => absurd hspaced hglued⟩
  | some keyword =>
      have hw : Slot.isLocation keyword.toList = true := hlocation keyword hloc
      obtain ⟨hwne, hword⟩ := Slot.isWord_of_isLocation hw
      rw [hloc] at hrest
      rw [Param.spacedIn_iff rfl]
      by_cases hspaced : ∃ type, text.toList = type ++ ' ' :: keyword.toList
      · obtain ⟨type, htext⟩ := hspaced
        have hagree := Target.overloadType_of_spaced hreads hcollapsed hw hrest htext
        rw [String.ofList_toList] at hagree
        exact ⟨⟨fun _ => ⟨type, htext⟩, fun _ => hagree⟩,
          fun hglued => absurd ⟨type, htext⟩ hglued⟩
      · have hglued := Target.overloadType_of_glued hreads hcollapsed hw hrest
          fun type htext => hspaced ⟨type, htext⟩
        rw [String.ofList_toList] at hglued
        refine ⟨⟨fun hagree => ?_, fun h => absurd h hspaced⟩, fun _ => hglued⟩
        exact absurd (hglued.symm.trans hagree) (Param.append_ne_overloadType
          (Param.ofText (String.ofList slot.typeText) (some keyword) slot.name) ⟨hwne, hword⟩)

/-- A location may follow `]` with or without a space; a target sees it
behind the space only. -/
theorem arrayLocations_read :
    (Param.read "uint[] storage" = some ⟨"uint[]", some "storage", none⟩
        ∧ Target.overloadType "uint[] storage".toList = "uint[] storage")
      ∧ Param.read "uint[]memory" = some ⟨"uint[]", some "memory", none⟩
        ∧ Param.overloadType ⟨"uint[]", some "memory", none⟩ = "uint[]"
        ∧ Target.overloadType "uint[]memory".toList = "uint[]memory" := by
  have hspaced : Param.read "uint[] storage" = some ⟨"uint[]", some "storage", none⟩ := by
    decide +kernel
  have hglued : Param.read "uint[]memory" = some ⟨"uint[]", some "memory", none⟩ := by
    decide +kernel
  obtain ⟨hagree, -⟩ := overload_types_agree_iff _ _ (by decide +kernel) hspaced rfl
  obtain ⟨hdiffer, hend⟩ := overload_types_agree_iff _ _ (by decide +kernel) hglued rfl
  refine ⟨⟨hspaced, ?_⟩, hglued, by decide +kernel, ?_⟩
  · refine hagree.2 fun keyword hkeyword => ?_
    cases hkeyword
    exact ⟨"uint[]", rfl⟩
  · refine hend fun hspaced => ?_
    exact absurd (hdiffer.2 hspaced) (by decide +kernel)

end ContractDocs
