/-
When a canonical header is read as parts that are written alike, for parts
that may come from elsewhere than a header.

# Slots

A reader may stop before the end of a type, and take words at its end for a
location or a name: `address payable` is read as a type and a name. The parts
differ then, but the written form is the same as long as these words stand
behind a word, where the spelling keeps a space before them
(`TypeName.canonicalChars_append_words`). `Param.Legible` asks for this, and
`Param.Legible.written_eq` is the consequence for one slot.

# Headers

A header is `Legible` when its slots are, and its words are words. Lists are
then read entry by entry (`CallableHeader.exists_readParams`), and only two
forms of a legible header are refused, each for its own reason: a modifier
with clauses behind its list, and a fallback function with parameters
(`Signature.refusal?`).

Parts that are not legible need not come back. A type may hold a symbol that
no reader takes, and a type that ends in a symbol loses the space before a
word that stays with it, or gains one before a location
(`Signature.illegible_lines`).
-/
import ContractDocs.Proofs.Signature.WellFormed

namespace ContractDocs

open Text Grouping

-- ===================================================== written suffixes

namespace Slot

/-- A suffix is written as its tokens, each behind a space. -/
theorem spaced_of_suffixOf {ts : List (List Char)} {location name : Option String}
    (h : suffixOf ts = some (location, name)) :
    (spaced location).toList ++ (spaced name).toList = ts.flatMap (' ' :: ·) := by
  have hplain : ∀ {ts name}, nameOf ts = some name →
      (spaced name).toList = ts.flatMap (' ' :: ·) := by
    intro ts name hname
    match ts with
    | [] =>
        cases hname
        rfl
    | [w] =>
        rw [nameOf] at hname
        split at hname
        · cases hname
          rw [toList_spaced_some]
          simp
        · cases hname
    | w :: v :: ts => cases hname
  cases ts with
  | nil =>
      cases h
      rfl
  | cons w ts =>
      rw [suffixOf] at h
      rcases (Option.orElse_eq_some _ _ _).1 h with h | ⟨-, h⟩
      · split at h
        · obtain ⟨n, hn, heq⟩ := Option.map_eq_some_iff.1 h
          cases heq
          rw [toList_spaced_some, String.toList_ofList, hplain hn]
          rfl
        · cases h
      · obtain ⟨n, hn, heq⟩ := Option.map_eq_some_iff.1 h
        cases heq
        rw [hplain hn]
        rfl

/-- The written form of a slot, by the tokens of its suffix. -/
theorem Reads.written_eq {text rest : List Char} {slot : Slot}
    (h : Reads text slot rest) :
    slot.written = TypeName.canonicalChars slot.typeText
      ++ (tokens rest).flatMap (' ' :: ·) := by
  rw [written, List.append_assoc, spaced_of_suffixOf h.suffix]

/-- The last token of a suffix is its name, unless it is a lone location. -/
theorem name_of_suffixOf {ts : List (List Char)} {w : List Char}
    {location name : Option String}
    (hw : ts = [] → isLocation w = false)
    (h : suffixOf (ts ++ [w]) = some (location, name)) :
    name = some (String.ofList w) := by
  match ts with
  | [] =>
      have hname : (nameOf [w]).map (none, ·) = some (location, name) := by
        rwa [List.nil_append, suffixOf, hw rfl, if_neg Bool.false_ne_true] at h
      rw [nameOf] at hname
      split at hname
      · cases hname
        rfl
      · cases hname
  | [v] =>
      rw [List.singleton_append, suffixOf] at h
      rcases (Option.orElse_eq_some _ _ _).1 h with h | ⟨-, h⟩
      · split at h
        · rw [nameOf] at h
          split at h
          · cases h
            rfl
          · cases h
        · cases h
      · cases h
  | v :: u :: ts =>
      rw [suffixOf_concat (List.cons_ne_nil _ _) fun x hx => by cases hx] at h
      cases h

end Slot

-- ================================================================ slots

namespace Param

/-- Words at the end of the type that can be taken for a location or a name
stand behind a word. -/
def Parted (param : Param) : Prop :=
  let type := tokens param.typeName.toList
  ∀ i < type.length, 0 < i →
    (Slot.suffixOf (type.drop i ++ tokens param.suffix)).isSome = true →
      (type.take i).getLast?.any endsWord = true

instance (param : Param) : Decidable param.Parted :=
  inferInstanceAs (Decidable (∀ i < _, 0 < i → _ → _))

/-- A parameter that a reader of slots takes for one written alike. -/
@[mk_iff]
structure Legible (param : Param) : Prop extends Worded param where
  spaces : OnlySpaces param.typeName.toList
  parted : param.Parted

instance (param : Param) : Decidable param.Legible :=
  decidable_of_iff _ (legible_iff param).symm

theorem Parted.exists_endsWord {param : Param} (h : param.Parted)
    {A m : List (List Char)} (htype : tokens param.typeName.toList = A ++ m)
    (hA : A ≠ []) (hm : m ≠ [])
    (hsuffix : (Slot.suffixOf (m ++ tokens param.suffix)).isSome = true) :
    ∃ t ∈ A.getLast?, endsWord t = true := by
  have hlength : A.length < (tokens param.typeName.toList).length := by
    rw [htype, List.length_append]
    exact Nat.lt_add_of_pos_right (List.length_pos_iff.2 hm)
  have hany := h A.length hlength (List.length_pos_iff.2 hA)
    (by rwa [htype, List.drop_left])
  rw [htype, List.take_left] at hany
  obtain ⟨t, ht, hends⟩ := (Option.any_eq_true _ _).1 hany
  exact ⟨t, ht, hends⟩

/-- What is written behind the type is its tokens, each behind a space. -/
theorem Worded.suffix_eq {param : Param} (h : param.Worded) :
    param.suffix = (tokens param.suffix).flatMap (' ' :: ·) := by
  rw [h.tokens_suffix, suffix]
  cases param.location <;> cases param.name <;> simp [spaced]

/-- What is written behind the type can be read behind it. -/
theorem Worded.isSome_suffixOf {param : Param} (h : param.Worded) :
    (Slot.suffixOf (tokens param.suffix)).isSome = true := by
  have hloc := h.isLocation_location
  have hname := h.all_isWord_name
  rw [h.tokens_suffix]
  cases hl : param.location with
  | none =>
      cases hn : param.name with
      | none => rfl
      | some n => simp [Slot.suffixOf, Slot.nameOf, hname n hn]
  | some l =>
      cases hn : param.name with
      | none => simp [Slot.suffixOf, Slot.nameOf, hloc l hl]
      | some n => simp [Slot.suffixOf, Slot.nameOf, hloc l hl, hname n hn]

namespace Legible

variable {param : Param} {text rest : List Char} {slot : Slot}

/-- A reader stops inside the type or at its end, never behind it. -/
theorem exists_cut (h : param.Legible) (hreads : Slot.Reads text slot rest)
    (htokens : tokens text = tokens param.render.toList) :
    ∃ m, tokens param.typeName.toList = tokens slot.typeText ++ m
      ∧ tokens rest = m ++ tokens param.suffix := by
  rw [hreads.tokens_eq, tokens_render] at htokens
  rcases List.append_eq_append_iff.1 htokens with ⟨m, ht, hr⟩ | ⟨m, ht, hr⟩
  · exact ⟨m, ht, hr⟩
  · by_cases hm : m = []
    · subst hm
      exact ⟨[], by simpa using ht.symm, by simpa using hr.symm⟩
    · have hnone := hreads.suffixOf_of_cut ht h.ne_nil hm
      have hsome := h.isSome_suffixOf
      rw [hr, hnone] at hsome
      cases hsome

/-- The slot that is read is written as the parameter was. -/
theorem written_eq (h : param.Legible)
    (hcanonical : TypeName.canonical param.typeName = param.typeName)
    (hreads : Slot.Reads text slot rest) (hsp : OnlySpaces text)
    (htokens : tokens text = tokens param.render.toList) :
    slot.written = param.render.toList := by
  obtain ⟨m, htype, hrest⟩ := h.exists_cut hreads htokens
  have hsuffix : (Slot.suffixOf (m ++ tokens param.suffix)).isSome = true := by
    rw [← hrest, hreads.suffix]
    rfl
  have hwords : ∀ w ∈ m, w ≠ [] ∧ ∀ c ∈ w, isWord c = true := by
    intro w hw
    have hmem : w ∈ tokens rest := hrest ▸ List.mem_append_left _ hw
    exact ⟨Slot.ne_nil_of_mem_tokens hmem,
      Slot.isWord_of_suffixOf hreads.suffix w hmem⟩
  have hspell : param.typeName.toList
      = TypeName.canonicalChars slot.typeText ++ m.flatMap (' ' :: ·) := by
    rw [← TypeName.canonicalChars_append_words (hreads.onlySpaces_typeText hsp)
      h.spaces htype hwords fun hm => h.parted.exists_endsWord htype
        hreads.tokens_typeText_ne_nil hm hsuffix]
    conv_lhs => rw [← hcanonical, TypeName.canonical, String.toList_ofList]
  rw [hreads.written_eq, hrest, List.flatMap_append, ← List.append_assoc,
    ← hspell, ← h.suffix_eq, toList_render]

/-- A legible parameter is read, from any text with its tokens. -/
theorem exists_reads (h : param.Legible)
    (htokens : tokens text = tokens param.render.toList) :
    ∃ slot rest, Slot.read text = some slot ∧ Slot.Reads text slot rest := by
  have hne : tokens text ≠ [] := by
    rw [htokens, tokens_render]
    exact List.append_ne_nil_of_left_ne_nil h.ne_nil _
  obtain ⟨slot, hslot⟩ := Slot.exists_read hne fun c hc => by
    cases hb : isBlank c with
    | true => simp [Slot.isTypeChar, hb]
    | false => exact h.isTypeChar_of_mem (mem_of_tokens_eq htokens hc hb)
  obtain ⟨rest, hreads⟩ := Slot.reads_of_read hslot hne
  exact ⟨slot, rest, hslot, hreads⟩

/-- A legible parameter is read from its written form, collapsed, as one that
is written alike. -/
theorem exists_read (h : param.Legible)
    (hcanonical : TypeName.canonical param.typeName = param.typeName) :
    ∃ param', Param.read (String.ofList (collapse param.render.toList)) = some param'
      ∧ param'.render = param.render := by
  have htokens := tokens_collapse param.render.toList
  obtain ⟨slot, rest, hslot, hreads⟩ := h.exists_reads htokens
  refine ⟨_, by rw [Param.read, String.toList_ofList, hslot]; rfl, ?_⟩
  rw [← String.toList_inj,
    ← h.written_eq hcanonical hreads (onlySpaces_collapse _) htokens]
  simp [ofText, render, TypeName.canonical, Slot.written]

end Legible

end Param

-- ===================================================== state variables

namespace VariableHeader

/-- The modifier in front of the name, when it reads as a location there. -/
def location? (header : VariableHeader) : Option String :=
  header.modifiers.getLast?.filter (· ∈ locationKeywords)

/-- The modifiers that a reader leaves with the type. -/
def held (header : VariableHeader) : List String :=
  if header.location?.isSome then header.modifiers.dropLast else header.modifiers

/-- The line as one slot. -/
def slot (header : VariableHeader) : Param where
  typeName := " ".intercalate (header.typeName :: header.held)
  location := header.location?
  name := some header.name

/-- A variable whose line is read as one written alike: modifiers that stay
with the type are spelled there as they are written, and the name does not
read as a location. -/
@[mk_iff]
structure Legible (header : VariableHeader) : Prop where
  slot : header.slot.Legible
  held : header.held ≠ [] →
    TypeName.canonical header.slot.typeName = header.slot.typeName
  name : header.location? = none → header.name ∉ locationKeywords

instance (header : VariableHeader) : Decidable header.Legible :=
  decidable_of_iff _ (legible_iff header).symm

theorem held_append_location? (header : VariableHeader) :
    header.held ++ header.location?.toList = header.modifiers := by
  rcases List.eq_nil_or_concat header.modifiers with hnil | ⟨init, last, hlast⟩
  · simp [held, location?, hnil]
  · rw [List.concat_eq_append] at hlast
    by_cases hmem : last ∈ locationKeywords
    · simp [held, location?, hlast, hmem]
    · simp [held, location?, hlast, hmem]

/-- Joined by spaces, all but the first stand behind one. -/
theorem toList_intercalate_space (word : String) (words : List String) :
    (" ".intercalate (word :: words)).toList
      = word.toList ++ words.flatMap (' ' :: ·.toList) := by
  induction words generalizing word with
  | nil => simp
  | cons next words ih =>
      have hnext := ih next
      rw [String.toList_intercalate, List.map_cons] at hnext
      rw [String.toList_intercalate, List.map_cons, List.map_cons,
        List.intercalate_cons_cons, hnext]
      simp

theorem render_slot (header : VariableHeader) : header.slot.render = header.render := by
  have hlocation : (spaced header.location?).toList
      = header.location?.toList.flatMap (' ' :: ·.toList) := by
    cases header.location? <;> simp [spaced]
  rw [← String.toList_inj, Param.toList_render, render, List.cons_append,
    ← held_append_location?, toList_intercalate_space, Param.suffix, slot,
    toList_intercalate_space, hlocation]
  simp [spaced]

variable {header : VariableHeader}

theorem Legible.canonical (h : header.Legible)
    (htype : TypeName.canonical header.typeName = header.typeName) :
    TypeName.canonical header.slot.typeName = header.slot.typeName := by
  by_cases hheld : header.held = []
  · have hslot : header.slot.typeName = header.typeName := by
      rw [VariableHeader.slot, hheld, ← String.toList_inj, toList_intercalate_space]
      simp
    rw [hslot, htype]
  · exact h.held hheld

/-- The slot that is read has a name. -/
theorem Legible.name_eq (h : header.Legible) {text rest : List Char} {slot : Slot}
    (hreads : Slot.Reads text slot rest)
    (htokens : tokens text = tokens header.render.toList) :
    slot.name = some header.name := by
  rw [← render_slot] at htokens
  obtain ⟨m, -, hrest⟩ := h.slot.exists_cut hreads htokens
  have hsuffix : tokens rest
      = (m ++ header.location?.toList.map String.toList) ++ [header.name.toList] := by
    rw [hrest, h.slot.tokens_suffix, List.append_assoc]
    rfl
  have hread := hreads.suffix
  rw [hsuffix] at hread
  rw [Slot.name_of_suffixOf (fun hnil => ?_) hread, String.ofList_toList]
  have hnone : header.location? = none := by
    simpa using (List.append_eq_nil_iff.1 hnil).2
  rw [Slot.isLocation, String.ofList_toList]
  simpa using h.name hnone

/-- A legible line is read as one that is written alike. -/
theorem Legible.exists_read (h : header.Legible)
    (htype : TypeName.canonical header.typeName = header.typeName) :
    ∃ header', read header.render.toList = .ok header' ∧ header'.render = header.render := by
  have htokens : tokens header.render.toList = tokens header.slot.render.toList := by
    rw [render_slot]
  have hsp : OnlySpaces header.render.toList := by
    rw [← render_slot, Param.toList_render]
    intro c hc hb
    rcases List.mem_append.1 hc with hc | hc
    · exact h.slot.spaces c hc hb
    · rcases h.slot.isWord_or_space_of_mem_suffix hc with hword | rfl
      · rw [isBlank_of_isWord hword] at hb
        cases hb
      · rfl
  obtain ⟨slot, rest, hslot, hreads⟩ := h.slot.exists_reads htokens
  have hname := h.name_eq hreads rfl
  refine ⟨_, read_of_slot hslot hname, ?_⟩
  rw [← String.toList_inj, toList_render hname,
    h.slot.written_eq (h.canonical htype) hreads hsp htokens, render_slot]

end VariableHeader

-- =========================================================== callables

/-- A modifier whose written form is one clause that adds it. -/
def Modifier.Legible : Modifier → Prop
  | .word text => IsName text ∧ text ≠ "returns"
  | .call name args => IsName name ∧ name ≠ "returns" ∧ name ∉ bareKeywords
    ∧ enclosed 0 (joined args) = true

instance : (modifier : Modifier) → Decidable modifier.Legible
  | .word text => inferInstanceAs (Decidable (IsName text ∧ text ≠ "returns"))
  | .call name args => inferInstanceAs (Decidable (IsName name ∧ name ≠ "returns"
      ∧ name ∉ bareKeywords ∧ enclosed 0 (joined args) = true))

/-- A parameter that can be told from its neighbours in a list. -/
@[mk_iff]
structure Param.LegibleEntry (param : Param) : Prop extends Param.Legible param where
  balanced : Balanced param.typeName.toList

instance (param : Param) : Decidable param.LegibleEntry :=
  decidable_of_iff _ (Param.legibleEntry_iff param).symm

namespace CallableHeader

/-- A callable whose canonical header a reader can make out. -/
@[mk_iff]
structure Legible (header : CallableHeader) : Prop where
  name : ∀ n ∈ header.name, IsName n
  params : ∀ p ∈ header.params, p.LegibleEntry
  modifiers : ∀ m ∈ header.modifiers, m.Legible
  returns : ∀ ps ∈ header.returns, ∀ p ∈ ps, p.LegibleEntry

instance (header : CallableHeader) : Decidable header.Legible :=
  decidable_of_iff _ (legible_iff header).symm

/-- Parts in the form they are collected in: types in canonical spelling, and
arguments cut at their commas. -/
structure Collected (header : CallableHeader) : Prop where
  params : ∀ p ∈ header.params, TypeName.canonical p.typeName = p.typeName
  args : ∀ name args, .call name args ∈ header.modifiers →
    (splitTopLevelChars (joined args)).map String.ofList = args
  returns : ∀ ps ∈ header.returns, ∀ p ∈ ps,
    TypeName.canonical p.typeName = p.typeName

/-- Why a legible header is refused, if it is: a function without a name takes
no parameters, and nothing stands behind the list of a modifier. -/
def refusal? (kind : Kind) (header : CallableHeader) : Option Malformed :=
  if header.name.isNone && !header.params.isEmpty then some .fallbackParameters
  else if kind = .modifier && !(header.modifiers.isEmpty && header.returns.isNone) then
    some .modifierTail
  else none

/-- A legible list is read as one that is written alike. -/
theorem exists_readParams {params : List Param} (h : ∀ p ∈ params, p.LegibleEntry)
    (hcanonical : ∀ p ∈ params, TypeName.canonical p.typeName = p.typeName) :
    enclosed 0 (joined (params.map Param.render)) = true
      ∧ ∃ found, readParams (joined (params.map Param.render)) = .ok found
        ∧ found.map Param.render = params.map Param.render := by
  have hread : ∀ p ∈ params, ∃ q,
      Param.read (String.ofList (collapse p.render.toList)) = some q
        ∧ q.render = p.render :=
    fun p hp => (h p hp).exists_read (hcanonical p hp)
  choose! found hfound using hread
  obtain ⟨henclosed, hparams⟩ := readParams_listable
    (fun p hp => (h p hp).listable (h p hp).balanced)
    (List.forall₂_map_right_iff.2
      (List.forall₂_same.2 fun p hp => (hfound p hp).1))
  refine ⟨henclosed, params.map found, hparams, ?_⟩
  rw [List.map_map]
  exact List.map_congr_left fun p hp => (hfound p hp).2

theorem stableModifier_of_legible {header : CallableHeader} (h : header.Legible)
    (hc : header.Collected) : ∀ m ∈ header.modifiers, StableModifier m := by
  intro m hm
  have hlegible := h.modifiers m hm
  cases m with
  | word text => exact stableModifier_word hlegible.1 hlegible.2
  | call name args =>
      obtain ⟨hname, hreturns, hbare, henclosed⟩ := hlegible
      exact stableModifier_call hname hreturns hbare henclosed (hc.args name args hm)

/-- A legible tail is written as one that is read back. -/
theorem exists_stable_tail {header : CallableHeader} (h : header.Legible)
    (hc : header.Collected) :
    ∃ returns, Tail.Stable ⟨header.modifiers, returns⟩
      ∧ returns.isNone = header.returns.isNone
      ∧ Tail.written ⟨header.modifiers, header.returns⟩
        = Tail.written ⟨header.modifiers, returns⟩ := by
  have hmodifiers := stableModifier_of_legible h hc
  cases hreturns : header.returns with
  | none => exact ⟨none, ⟨hmodifiers, fun ps hps => by cases hps⟩, rfl, rfl⟩
  | some params =>
      obtain ⟨henclosed, found, hread, hrender⟩ :=
        exists_readParams (h.returns params hreturns) (hc.returns params hreturns)
      refine ⟨some found, ⟨hmodifiers, fun ps hps => ?_⟩, rfl, ?_⟩
      · cases hps
        exact stableParams_of_readParams henclosed hread
      · simp only [Tail.written, hrender]

/-- Only an empty tail is written as nothing. -/
theorem Tail.Stable.isBlankText_written {tail : Tail} (h : tail.Stable) :
    isBlankText tail.written = (tail.modifiers.isEmpty && tail.returns.isNone) := by
  cases hb : isBlankText tail.written with
  | true =>
      have hread := (readTail_eq_ok_iff.1 (readTail_written h)).1
      rw [clauses_of_blank hb] at hread
      cases hread
      rfl
  | false =>
      obtain ⟨modifiers, returns⟩ := tail
      cases modifiers with
      | cons m modifiers => rfl
      | nil =>
          cases returns with
          | some params => rfl
          | none => cases hb

/-- What is made of a canonical header whose list closes. -/
theorem read_toList_render {kind : Kind} {header : CallableHeader}
    (hname : ∀ n ∈ header.name, IsName n)
    (hlist : enclosed 0 (joined (header.params.map Param.render)) = true) :
    read kind header.render.toList = (do
      let name ← settleName kind header.name (joined (header.params.map Param.render))
      let params ← readParams (joined (header.params.map Param.render))
      if kind = .modifier
          && !isBlankText (Tail.written ⟨header.modifiers, header.returns⟩) then
        .error .modifierTail
      else
        let tail ← readTail (Tail.written ⟨header.modifiers, header.returns⟩)
        .ok ⟨name, params, tail.modifiers, tail.returns⟩) := by
  rw [read, toList_render, readHead_written hname hlist]
  rfl

/-- A name that is written is settled, unless the fallback function has
parameters. -/
theorem settleName_written {kind : Kind} {header : CallableHeader} {found : List Param}
    (hread : readParams (joined (header.params.map Param.render)) = .ok found)
    (hrender : found.map Param.render = header.params.map Param.render)
    (hkind : header.name = none → kind = .function) :
    settleName kind header.name (joined (header.params.map Param.render))
      = if header.name.isNone && !header.params.isEmpty then .error .fallbackParameters
        else .ok header.name := by
  cases hname : header.name with
  | some name => rfl
  | none =>
      cases hkind hname
      cases hparams : header.params with
      | nil => rfl
      | cons p params =>
          rw [hparams] at hread hrender
          rw [settleName]
          refine if_neg fun hblank => ?_
          rw [readParams_eq_ok_iff, splitTopLevelChars_of_blank hblank,
            List.forall₂_nil_left_iff] at hread
          subst hread
          cases hrender

/-- What a legible header is read as is written alike, unless the header is
refused. -/
theorem Legible.map_render_read {kind : Kind} {header : CallableHeader}
    (h : header.Legible) (hc : header.Collected)
    (hkind : header.name = none → kind = .function) :
    (read kind header.render.toList).map render
      = (header.refusal? kind).elim (.ok header.render) .error := by
  obtain ⟨hlist, params, hparams, hrender⟩ := exists_readParams h.params hc.params
  obtain ⟨returns, hstable, hnone, hwritten⟩ := exists_stable_tail h hc
  have hagain : render ⟨header.name, params, header.modifiers, returns⟩
      = header.render := by
    rw [← String.toList_inj, toList_render, toList_render, hrender, hwritten]
  rw [read_toList_render h.name hlist, settleName_written hparams hrender hkind,
    hparams, hwritten, hstable.isBlankText_written, hnone, readTail_written hstable,
    refusal?]
  split
  · rfl
  · split
    · rfl
    · exact congrArg Except.ok hagain

end CallableHeader

-- ========================================================= any header

/-- A type header of names. -/
@[mk_iff]
structure TypeHeader.Legible (header : TypeHeader) : Prop where
  name : IsName header.name
  bases : ∀ base ∈ header.bases, IsName base

instance (header : TypeHeader) : Decidable header.Legible :=
  decidable_of_iff _ (TypeHeader.legible_iff header).symm

namespace Signature

/-- A signature whose canonical header a reader can make out. -/
def Legible : Signature → Prop
  | typeLike header => header.Legible
  | stateVar header => header.Legible
  | callable header => header.Legible

instance : (s : Signature) → Decidable s.Legible
  | typeLike header => inferInstanceAs (Decidable header.Legible)
  | stateVar header => inferInstanceAs (Decidable header.Legible)
  | callable header => inferInstanceAs (Decidable header.Legible)

/-- Why the canonical header of a legible signature is refused, if it is. -/
def refusal? (kind : Kind) : Signature → Option Malformed
  | callable header => header.refusal? kind
  | _ => none

/-- `Lib.Item public item`: no reader takes the dot. -/
def qualifiedItem : Signature :=
  .stateVar ⟨"Lib.Item", ["public"], "item"⟩

/-- `uint[] public constant X`: `constant` is no location, so that `public`
stays with the type, whose last character is a symbol. -/
def arrayConstant : Signature :=
  .stateVar ⟨"uint[]", ["public", "constant"], "X"⟩

/-- `function(uint)internal cb`: the word at the end of the type is taken for
a location. -/
def internalCallback : Signature :=
  .stateVar ⟨"function(uint)internal", [], "cb"⟩

/-- Lines that are not legible, and not read alike: the first is refused, the
others come back spelled otherwise. -/
theorem illegible_lines :
    (¬ qualifiedItem.Legible
      ∧ read .stateVar qualifiedItem.render = .error .notVariable)
    ∧ (¬ arrayConstant.Legible
      ∧ arrayConstant.render = "uint[] public constant X"
      ∧ (read .stateVar arrayConstant.render).map render = .ok "uint[]public constant X")
    ∧ ¬ internalCallback.Legible
      ∧ internalCallback.render = "function(uint)internal cb"
      ∧ (read .stateVar internalCallback.render).map render
        = .ok "function(uint) internal cb" := by
  refine ⟨⟨by decide +kernel, by cbv⟩, ⟨by decide +kernel, by cbv, by cbv⟩,
    by decide +kernel, by cbv, by cbv⟩

end Signature

end ContractDocs
