/-
Well-formed callables are read back from their canonical header, also those
that no header was ever read from.

# Parameters

Nothing but blanks separates type, location and name, so a parameter is read
back when its tokens can be cut in one way only. `Slot.Reads.cut_eq` is the
criterion: the type stops at the first place behind which a suffix follows.
`Param.Unambiguous` says when that place is the end of the type.

# Lists

An entry of a list is `Listable`: it has no comma outside brackets, ends at
the depth it began with, and closes its own parentheses. Parameters of a
well-formed list are (`Param.Worded.listable`), and arguments are asked
to be.
-/
import ContractDocs.Proofs.Signature.Canonical

namespace ContractDocs

open Text Grouping

-- ========================================================== the one cut

namespace Slot

/-- A text is cut where a suffix begins, when none begins earlier. -/
theorem Reads.cut_eq {text rest : List Char} {slot : Slot}
    (h : Reads text slot rest) {A B : List (List Char)}
    {location name : Option String} (htokens : tokens text = A ++ B) (hA : A ≠ [])
    (hB : suffixOf B = some (location, name))
    (hshort : ∀ p q, A = p ++ q → p ≠ [] → q ≠ [] → suffixOf (q ++ B) = none) :
    tokens slot.typeText = A ∧ slot.location = location ∧ slot.name = name := by
  have hcut : tokens slot.typeText = A ∧ tokens rest = B := by
    rw [h.tokens_eq] at htokens
    rcases List.append_eq_append_iff.1 htokens with ⟨m, ht, hr⟩ | ⟨m, ht, hr⟩
    · by_cases hm : m = []
      · subst hm
        simp_all
      · have hnone := hshort _ m ht h.tokens_typeText_ne_nil hm
        rw [← hr, h.suffix] at hnone
        cases hnone
    · by_cases hm : m = []
      · subst hm
        simp_all
      · have hnone := h.suffixOf_of_cut ht hA hm
        rw [← hr, hB] at hnone
        cases hnone
  have hsuffix := h.suffix
  rw [hcut.2, hB, Option.some.injEq, Prod.mk.injEq] at hsuffix
  exact ⟨hcut.1, hsuffix.1.symm, hsuffix.2.symm⟩

/-- A suffix has at most two tokens, and the first of two is a location. -/
theorem suffixOf_concat {ts : List (List Char)} (hne : ts ≠ [])
    (h : ∀ w, ts = [w] → isLocation w = false) (t : List Char) :
    suffixOf (ts ++ [t]) = none := by
  match ts with
  | [] => exact absurd rfl hne
  | [w] => simp [suffixOf, nameOf, h w rfl]
  | w :: v :: [] => simp [suffixOf, nameOf]
  | w :: v :: u :: ts => simp [suffixOf, nameOf]

/-- A suffix does not end in a symbol. -/
theorem suffixOf_concat_symbol {t : List Char} (ht : t.all isWord = false)
    (ts : List (List Char)) : suffixOf (ts ++ [t]) = none := by
  match ts with
  | [] =>
      have hloc : isLocation t = false := by
        by_contra hloc
        rw [Bool.not_eq_false] at hloc
        rw [List.all_eq_true.2 (isWord_of_isLocation hloc).2] at ht
        cases ht
      simp [suffixOf, nameOf, hloc, ht]
  | [w] => simp [suffixOf, nameOf, ht]
  | w :: v :: [] => simp [suffixOf, nameOf]
  | w :: v :: u :: ts => simp [suffixOf, nameOf]

end Slot

-- ===================================================== entries of lists

namespace Grouping

/-- Brackets that close: the parentheses in order, and of all three kinds as
many as open. Properly nested brackets do. -/
@[mk_iff]
structure Balanced (text : List Char) : Prop where
  parens : enclosed 0 text = true
  net : net text = 0

instance (text : List Char) : Decidable (Balanced text) :=
  decidable_of_iff _ (balanced_iff text).symm

/-- A text that can stand in a list, between commas. -/
structure Listable (text : List Char) : Prop where
  uncut : uncut 0 text = true
  balanced : Balanced text
  ne_nil : tokens text ≠ []

/-- A text that closes what is open before it leaves the rest as it was. -/
theorem enclosed_append {x : List Char} :
    ∀ {depth : Nat}, enclosed depth x = true →
      ∀ (extra : Nat) (y : List Char),
        enclosed (depth + extra) (x ++ y) = enclosed extra y := by
  induction x with
  | nil =>
      intro depth h extra y
      have hd : depth = 0 := by simpa [enclosed] using h
      rw [hd, Nat.zero_add, List.nil_append]
  | cons c x ih =>
      intro depth h extra y
      rw [enclosed] at h
      rw [List.cons_append, enclosed]
      by_cases hopen : c = '('
      · rw [if_pos hopen] at h ⊢
        rw [Nat.add_right_comm]
        exact ih h extra y
      · rw [if_neg hopen] at h ⊢
        by_cases hclose : c = ')'
        · rw [if_pos hclose, Bool.and_eq_true, decide_eq_true_eq] at h
          have hdepth : depth + extra - 1 = depth - 1 + extra := by omega
          rw [if_pos hclose, hdepth, ih h.2 extra y]
          simp [show 0 < depth + extra by omega]
        · rw [if_neg hclose] at h ⊢
          exact ih h extra y

/-- Texts that can stand in a list do: they are its entries, and the list
closes its own parentheses. -/
theorem splitTopLevelChars_listables {xs : List (List Char)}
    (h : ∀ x ∈ xs, Listable x) :
    splitTopLevelChars ([',', ' '].intercalate xs) = xs.map collapse
      ∧ enclosed 0 ([',', ' '].intercalate xs) = true := by
  constructor
  · have hcut : Cut xs := ⟨fun x hx => (h x hx).uncut,
      fun x hx => (h x (List.dropLast_subset _ hx)).balanced.net⟩
    have hspace : isBlankText [' '] = true := rfl
    exact splitTopLevelChars_intercalate_of_ne hspace hcut fun x hx => (h x hx).ne_nil
  · induction xs with
    | nil => rfl
    | cons x xs ih =>
        have hx := (h x (List.mem_cons_self ..)).balanced.parens
        have hxs := ih fun y hy => h y (List.mem_cons_of_mem _ hy)
        cases xs with
        | nil => rwa [List.intercalate_singleton]
        | cons y ys =>
            rw [List.intercalate_cons_cons, List.append_assoc]
            rw [← Nat.zero_add 0, enclosed_append hx 0]
            exact hxs

/-- A text without a comma is not cut. -/
theorem uncut_of_no_comma {x : List Char} :
    ∀ {depth : Int}, ',' ∉ x → uncut depth x = true := by
  induction x with
  | nil => intro depth _; rfl
  | cons c x ih =>
      intro depth h
      rw [List.mem_cons, not_or] at h
      rw [uncut, ih h.2]
      simp [Ne.symm h.1]

/-- Word characters and blanks are no brackets. -/
theorem isMark_of_isWord {c : Char} (h : isWord c = true) : isMark c = false := by
  by_contra hmark
  simp only [isMark, depthStep, Bool.not_eq_false, Bool.or_eq_true,
    decide_eq_true_eq] at hmark
  rcases hmark with rfl | hmark
  · revert h
    decide
  · split at hmark
    · next hc => rcases hc with (rfl | rfl) | rfl <;> revert h <;> decide
    · split at hmark
      · next hc => rcases hc with (rfl | rfl) | rfl <;> revert h <;> decide
      · exact hmark rfl

end Grouping

-- ========================================================== parameters

namespace Param

/-- The symbols of a type. -/
def typeSymbols : List (List Char) :=
  [['['], [']'], ['('], [')'], ['='], ['>']]

/-- A parameter in the characters of a slot: the type has words and symbols of
types, a location is a keyword, and a name is a word. -/
@[mk_iff]
structure Worded (param : Param) : Prop where
  ne_nil : tokens param.typeName.toList ≠ []
  typeTokens : ∀ t ∈ tokens param.typeName.toList,
    t.all isWord = true ∨ t ∈ typeSymbols
  location : ∀ l ∈ param.location, l ∈ locationKeywords
  name : ∀ n ∈ param.name, IsName n

instance (param : Param) : Decidable param.Worded :=
  decidable_of_iff _ (worded_iff param).symm

/-- The type is not taken for more, or less, than it is: without a location
and a name it is one token or ends in a symbol; in front of one of them, a
type of several tokens does not end in a location keyword, and a name that
stands alone is none. -/
def Unambiguous (param : Param) : Prop :=
  let type := tokens param.typeName.toList
  match param.location, param.name with
  | none, none => type.length = 1 ∨ ∀ t ∈ type.getLast?, t.all isWord = false
  | none, some name => name ∉ locationKeywords
    ∧ (2 ≤ type.length → ∀ t ∈ type.getLast?, Slot.isLocation t = false)
  | some _, none =>
    2 ≤ type.length → ∀ t ∈ type.getLast?, Slot.isLocation t = false
  | some _, some _ => True

/-- A parameter that its written form determines. -/
structure WellFormed (param : Param) : Prop where
  canonical : TypeName.canonical param.typeName = param.typeName
  ne_nil : tokens param.typeName.toList ≠ []
  typeTokens : ∀ t ∈ tokens param.typeName.toList,
    t.all isWord = true ∨ t ∈ typeSymbols
  balanced : Balanced param.typeName.toList
  spaces : OnlySpaces param.typeName.toList
  location : ∀ l ∈ param.location, l ∈ locationKeywords
  name : ∀ n ∈ param.name, IsName n
  unambiguous : param.Unambiguous

/-- What is written behind the type. -/
def suffix (param : Param) : List Char :=
  (spaced param.location).toList ++ (spaced param.name).toList

theorem toList_render (param : Param) :
    param.render.toList = param.typeName.toList ++ param.suffix := by
  rw [render, String.toList_append, String.toList_append, List.append_assoc, suffix]

theorem tokens_render (param : Param) :
    tokens param.render.toList
      = tokens param.typeName.toList ++ tokens param.suffix := by
  have hglued : glued param.typeName.toList param.suffix = false := by
    unfold suffix
    cases param.location with
    | none => exact Slot.glued_spaced _ param.name
    | some l =>
        rw [Slot.toList_spaced_some]
        exact glued_cons_blank isBlank_space _ _
  rw [toList_render, tokens_append hglued]

theorem tokens_spaced {word : Option String} (h : ∀ w ∈ word, IsName w) :
    tokens (spaced word).toList = word.toList.map String.toList := by
  cases word with
  | none => rfl
  | some w =>
      have hw := h w rfl
      rw [Slot.toList_spaced_some, tokens_cons_blank isBlank_space,
        tokens_word hw.ne_nil hw.isWord]
      rfl

namespace Worded

variable {param : Param}

theorem isName_location (h : param.Worded) : ∀ l ∈ param.location, IsName l := by
  intro l hl
  obtain ⟨hne, hword⟩ := Slot.isWord_of_mem_locationKeywords (h.location l hl)
  exact ⟨hne, hword⟩

theorem isLocation_location (h : param.Worded) :
    ∀ l ∈ param.location, Slot.isLocation l.toList = true := by
  intro l hl
  rw [Slot.isLocation, String.ofList_toList]
  exact List.contains_iff_mem.2 (h.location l hl)

theorem all_isWord_name (h : param.Worded) :
    ∀ n ∈ param.name, n.toList.all isWord = true := fun n hn =>
  List.all_eq_true.2 (h.name n hn).isWord

theorem tokens_suffix (h : param.Worded) :
    tokens param.suffix = param.location.toList.map String.toList
      ++ param.name.toList.map String.toList := by
  rw [suffix, tokens_append (Slot.glued_spaced _ _), tokens_spaced h.isName_location,
    tokens_spaced h.name]

theorem isWord_or_space_of_mem_suffix (h : param.Worded) {c : Char}
    (hc : c ∈ param.suffix) : isWord c = true ∨ c = ' ' := by
  have hspaced : ∀ {word : Option String}, (∀ w ∈ word, IsName w) →
      c ∈ (spaced word).toList → isWord c = true ∨ c = ' ' := by
    intro word hword hc
    cases word with
    | none => cases hc
    | some w =>
        rw [Slot.toList_spaced_some] at hc
        rcases List.mem_cons.1 hc with rfl | hc
        · exact .inr rfl
        · exact .inl ((hword w rfl).isWord c hc)
  rcases List.mem_append.1 hc with hc | hc
  · exact hspaced h.isName_location hc
  · exact hspaced h.name hc

theorem isTypeChar_of_mem (h : param.Worded) {c : Char}
    (hc : c ∈ param.render.toList) : Slot.isTypeChar c = true := by
  rw [toList_render, List.mem_append] at hc
  rcases hc with hc | hc
  · cases hb : isBlank c with
    | true => simp [Slot.isTypeChar, hb]
    | false =>
        obtain ⟨t, ht, hct⟩ := exists_mem_token hc hb
        rcases h.typeTokens t ht with hword | hsymbol
        · simp [Slot.isTypeChar, List.all_eq_true.1 hword c hct]
        · have hall : ∀ t ∈ typeSymbols, ∀ c ∈ t, Slot.isTypeChar c = true := by
            simp [typeSymbols, Slot.isTypeChar]
          exact hall t hsymbol c hct
  · rcases h.isWord_or_space_of_mem_suffix hc with hword | rfl
    · simp [Slot.isTypeChar, hword]
    · decide

/-- A parameter whose type closes its brackets can stand in a list. -/
theorem listable (h : param.Worded) (hb : Balanced param.typeName.toList) :
    Listable param.render.toList := by
  have hmarks : param.suffix.filter isMark = [] := by
    refine List.filter_eq_nil_iff.2 fun c hc => ?_
    rcases h.isWord_or_space_of_mem_suffix hc with hword | rfl
    · simp [isMark_of_isWord hword]
    · decide
  have hparens : param.suffix.filter isParen = [] := by
    refine List.filter_eq_nil_iff.2 fun c hc hparen => ?_
    have hmark : isMark c = true := by
      simp only [isParen, Bool.or_eq_true, decide_eq_true_eq] at hparen
      rcases hparen with rfl | rfl <;> decide
    exact List.filter_eq_nil_iff.1 hmarks c hc hmark
  refine ⟨uncut_of_no_comma fun hc => ?_, ⟨?_, ?_⟩, ?_⟩
  · exact absurd (h.isTypeChar_of_mem hc) (by decide)
  · rw [toList_render, ← Nat.zero_add 0, enclosed_append hb.parens 0,
      ← enclosed_filter_isParen, hparens]
    rfl
  · rw [toList_render, net_append, hb.net, ← net_filter_isMark param.suffix,
      hmarks]
    rfl
  · rw [tokens_render]
    exact List.append_ne_nil_of_left_ne_nil h.ne_nil _

end Worded

namespace WellFormed

variable {param : Param}

theorem worded (h : param.WellFormed) : param.Worded :=
  ⟨h.ne_nil, h.typeTokens, h.location, h.name⟩

/-- What is written behind the type is a suffix. -/
theorem suffixOf_suffix (h : param.WellFormed) :
    Slot.suffixOf (tokens param.suffix) = some (param.location, param.name) := by
  have hloc := h.worded.isLocation_location
  have hall := h.worded.all_isWord_name
  have hname : ∀ n, param.location = none → param.name = some n →
      Slot.isLocation n.toList = false := by
    intro n hl hn
    have hun := h.unambiguous
    rw [Unambiguous, hl, hn] at hun
    rw [Slot.isLocation, String.ofList_toList]
    simpa using hun.1
  rw [h.worded.tokens_suffix]
  cases hl : param.location with
  | none =>
      cases hn : param.name with
      | none => rfl
      | some n => simp [Slot.suffixOf, Slot.nameOf, hname n hl hn, hall n hn]
  | some l =>
      cases hn : param.name with
      | none => simp [Slot.suffixOf, Slot.nameOf, hloc l hl]
      | some n => simp [Slot.suffixOf, Slot.nameOf, hloc l hl, hall n hn]

/-- No suffix begins inside the type. -/
theorem suffixOf_of_cut (h : param.WellFormed) {p q : List (List Char)}
    (hpq : tokens param.typeName.toList = p ++ q) (hp : p ≠ []) (hq : q ≠ []) :
    Slot.suffixOf (q ++ tokens param.suffix) = none := by
  have hlength : 2 ≤ (tokens param.typeName.toList).length := by
    rw [hpq, List.length_append]
    have := List.length_pos_iff.2 hp
    have := List.length_pos_iff.2 hq
    omega
  have hlast : (tokens param.typeName.toList).getLast? = q.getLast? := by
    rw [hpq, List.getLast?_append_of_ne_nil p hq]
  have hun := h.unambiguous
  rw [h.worded.tokens_suffix]
  unfold Unambiguous at hun
  cases hl : param.location with
  | some l =>
      cases hn : param.name with
      | some n =>
          have hsplit : q ++ ([l.toList] ++ [n.toList])
              = (q ++ [l.toList]) ++ [n.toList] := by simp
          show Slot.suffixOf (q ++ ([l.toList] ++ [n.toList])) = none
          rw [hsplit]
          refine Slot.suffixOf_concat (by simp) (fun w hw => ?_) _
          exact absurd (by simpa using congrArg List.length hw) hq
      | none =>
          rw [hl, hn] at hun
          show Slot.suffixOf (q ++ [l.toList]) = none
          refine Slot.suffixOf_concat hq (fun w hw => ?_) _
          exact hun hlength w (by rw [hlast, hw]; rfl)
  | none =>
      cases hn : param.name with
      | some n =>
          rw [hl, hn] at hun
          show Slot.suffixOf (q ++ [n.toList]) = none
          refine Slot.suffixOf_concat hq (fun w hw => ?_) _
          exact hun.2 hlength w (by rw [hlast, hw]; rfl)
      | none =>
          rw [hl, hn] at hun
          show Slot.suffixOf (q ++ []) = none
          rw [List.append_nil]
          rcases List.eq_nil_or_concat q with rfl | ⟨init, t, rfl⟩
          · exact absurd rfl hq
          · rw [List.concat_eq_append] at hlast ⊢
            refine Slot.suffixOf_concat_symbol ?_ init
            rcases hun with hone | hsymbol
            · omega
            · exact hsymbol t (by rw [hlast]; simp)

/-- A well-formed parameter is read back from its written form. -/
theorem read_collapse_render (h : param.WellFormed) :
    Param.read (String.ofList (collapse param.render.toList)) = some param := by
  have htokens : tokens (collapse param.render.toList)
      = tokens param.typeName.toList ++ tokens param.suffix := by
    rw [tokens_collapse, tokens_render]
  have hne : tokens (collapse param.render.toList) ≠ [] := by
    rw [htokens]
    exact List.append_ne_nil_of_left_ne_nil h.ne_nil _
  obtain ⟨slot, hslot⟩ := Slot.exists_read hne fun c hc => by
    cases hb : isBlank c with
    | true => simp [Slot.isTypeChar, hb]
    | false =>
        exact h.worded.isTypeChar_of_mem (mem_of_tokens_eq (tokens_collapse _) hc hb)
  obtain ⟨rest, hreads⟩ := Slot.reads_of_read hslot hne
  obtain ⟨htype, hloc, hname⟩ := hreads.cut_eq htokens h.ne_nil h.suffixOf_suffix
    fun p q hpq hp hq => h.suffixOf_of_cut hpq hp hq
  have hspell : TypeName.canonicalChars slot.typeText
      = TypeName.canonicalChars param.typeName.toList :=
    TypeName.canonicalChars_eq_of_tokens_eq
      (hreads.onlySpaces_typeText (onlySpaces_collapse _)) h.spaces htype
  have hcanonical : TypeName.canonical (String.ofList slot.typeText) = param.typeName := by
    rw [TypeName.canonical, String.toList_ofList, hspell]
    exact h.canonical
  rw [Param.read, String.toList_ofList, hslot, Option.map_some, Param.ofText,
    hcanonical, hloc, hname]

end WellFormed

end Param

-- =========================================================== callables

/-- A modifier that its written form determines: any word but `returns`, or
a word that may take arguments, with arguments that are one entry each. -/
def Modifier.WellFormed : Modifier → Prop
  | .word text => IsName text ∧ text ≠ "returns"
  | .call name args => IsName name ∧ name ≠ "returns" ∧ name ∉ bareKeywords
    ∧ ∀ arg ∈ args, splitTopLevel arg = [arg] ∧ Balanced arg.toList

namespace CallableHeader

/-- A callable of a kind that its canonical header determines. -/
structure WellFormed (kind : Kind) (header : CallableHeader) : Prop where
  name : ∀ n ∈ header.name, IsName n
  fallback : header.name = none → kind = .function ∧ header.params = []
  params : ∀ p ∈ header.params, p.WellFormed
  modifiers : ∀ m ∈ header.modifiers, m.WellFormed
  returns : ∀ ps ∈ header.returns, ∀ p ∈ ps, p.WellFormed
  bare : kind = .modifier → header.modifiers = [] ∧ header.returns = none

/-- Parameters that can stand in a list are read from it one by one. -/
theorem readParams_listable {params found : List Param}
    (h : ∀ p ∈ params, Listable p.render.toList)
    (hfound : List.Forall₂ (fun p q =>
      Param.read (String.ofList (collapse p.render.toList)) = some q) params found) :
    enclosed 0 (joined (params.map Param.render)) = true
      ∧ readParams (joined (params.map Param.render)) = .ok found := by
  have hrender : joined (params.map Param.render)
      = [',', ' '].intercalate (params.map (·.render.toList)) := by
    rw [joined, List.map_map]
    rfl
  have hlistable : ∀ x ∈ params.map (·.render.toList), Listable x := by
    intro x hx
    obtain ⟨p, hp, rfl⟩ := List.mem_map.1 hx
    exact h p hp
  obtain ⟨hsplit, henclosed⟩ := splitTopLevelChars_listables hlistable
  refine ⟨by rw [hrender, henclosed], ?_⟩
  rw [readParams_eq_ok_iff, hrender, hsplit, List.map_map, List.forall₂_map_left_iff]
  exact hfound

theorem stableParams_of_wellFormed {params : List Param}
    (h : ∀ p ∈ params, p.WellFormed) : StableParams params := by
  obtain ⟨henclosed, hread⟩ := readParams_listable
    (fun p hp => (h p hp).worded.listable (h p hp).balanced)
    (List.forall₂_same.2 fun p hp => (h p hp).read_collapse_render)
  exact ⟨henclosed, hread⟩

theorem stableModifier_word {text : String} (hname : IsName text)
    (hreturns : text ≠ "returns") : StableModifier (.word text) := by
  refine ⟨⟨hname, fun list hlist => by cases hlist⟩, fun tail => ?_⟩
  rw [Tail.add, clauseOf, if_neg hreturns]

/-- Arguments that are found again in their canonical form, behind a word that
takes arguments. -/
theorem stableModifier_call {name : String} {args : List String}
    (hname : IsName name) (hreturns : name ≠ "returns") (hbare : name ∉ bareKeywords)
    (henclosed : enclosed 0 (joined args) = true)
    (hagain : (splitTopLevelChars (joined args)).map String.ofList = args) :
    StableModifier (.call name args) := by
  refine ⟨⟨hname, fun list hlist => ?_⟩, fun tail => ?_⟩
  · cases hlist
    exact henclosed
  · have hcontains : ¬ bareKeywords.contains name = true := by
      simpa using hbare
    rw [Tail.add, clauseOf, if_neg hreturns]
    simp only [hagain]
    rw [if_neg hcontains]

theorem stableModifier_of_wellFormed {modifier : Modifier}
    (h : modifier.WellFormed) : StableModifier modifier := by
  cases modifier with
  | word text => exact stableModifier_word h.1 h.2
  | call name args =>
      obtain ⟨hname, hreturns, hbare, hargs⟩ := h
      have hentry := fun arg harg => entry_of_splitTopLevel (hargs arg harg).1
      have hlistable : ∀ x ∈ args.map String.toList, Listable x := by
        intro x hx
        obtain ⟨arg, harg, rfl⟩ := List.mem_map.1 hx
        exact ⟨(hentry arg harg).1, (hargs arg harg).2, (hentry arg harg).2.2⟩
      obtain ⟨hsplit, henclosed⟩ := splitTopLevelChars_listables hlistable
      refine stableModifier_call hname hreturns hbare henclosed ?_
      rw [joined, hsplit, List.map_map, List.map_map]
      conv_rhs => rw [← List.map_id args]
      refine List.map_congr_left fun arg harg => ?_
      show String.ofList (collapse arg.toList) = arg
      rw [(hentry arg harg).2.1, String.ofList_toList]

end CallableHeader

theorem Signature.read_eq_callable {kind : Kind}
    (hkind : kind ∈ [.constructor, .function, .event, .modifier]) (header : String) :
    Signature.read kind header
      = (CallableHeader.read kind header.toList).map .callable := by
  fin_cases hkind <;> rfl

/-- Reading undoes writing on well-formed callables: the canonical header of
one is read as this callable, part by part. -/
theorem Signature.read_render_of_wellFormed (kind : Kind)
    (hkind : kind ∈ [.constructor, .function, .event, .modifier])
    (header : CallableHeader) (h : header.WellFormed kind) :
    Signature.read kind (Signature.callable header).render
      = .ok (.callable header) := by
  have hparams := CallableHeader.stableParams_of_wellFormed h.params
  have htail : CallableHeader.Tail.Stable ⟨header.modifiers, header.returns⟩ :=
    ⟨fun m hm => CallableHeader.stableModifier_of_wellFormed (h.modifiers m hm),
      fun ps hps => CallableHeader.stableParams_of_wellFormed (h.returns ps hps)⟩
  have hread : CallableHeader.read kind header.render.toList = .ok header := by
    rw [CallableHeader.read_eq_ok_iff, CallableHeader.toList_render]
    refine ⟨_, _, _, _, CallableHeader.readHead_written h.name hparams.enclosed, ?_,
      hparams.read, ?_, CallableHeader.readTail_written htail, rfl⟩
    · cases hname : header.name with
      | some name => rfl
      | none =>
          obtain ⟨rfl, hnil⟩ := h.fallback hname
          rw [hnil]
          rfl
    · intro hmodifier
      obtain ⟨hmodifiers, hreturns⟩ := h.bare hmodifier
      rw [CallableHeader.Tail.written, hmodifiers, hreturns]
      rfl
  show Signature.read kind header.render = _
  rw [Signature.read_eq_callable hkind, hread]
  rfl

/-- A type that is a keyword, a mapping with a location and a name, and
arguments with commas inside their brackets. -/
def guardedHeader : CallableHeader where
  name := some "swap"
  params := [⟨"mapping (address => uint[])", some "storage", some "m"⟩,
    ⟨"memory", some "calldata", none⟩]
  modifiers := [.call "guard" ["f(1,2)", "[2,3]"], .word "public"]
  returns := some [⟨"(bytes)", none, none⟩]

theorem guardedHeader_read_back :
    (Signature.callable guardedHeader).render
        = "swap(mapping (address => uint[]) storage m, memory calldata)"
          ++ " guard(f(1,2), [2,3]) public returns ((bytes))"
      ∧ Signature.read .function (Signature.callable guardedHeader).render
        = .ok (.callable guardedHeader) := by
  have hmapping : Param.WellFormed
      ⟨"mapping (address => uint[])", some "storage", some "m"⟩ := by
    refine ⟨by decide +kernel, by decide +kernel, by decide +kernel,
      ⟨by decide +kernel, by decide +kernel⟩, by decide +kernel, ?_, ?_, trivial⟩
    · rintro _ ⟨rfl⟩
      decide
    · rintro _ ⟨rfl⟩
      exact ⟨by decide, List.all_eq_true.1 (by decide)⟩
  have hkeyword : Param.WellFormed ⟨"memory", some "calldata", none⟩ := by
    refine ⟨by decide +kernel, by decide +kernel, by decide +kernel,
      ⟨by decide +kernel, by decide +kernel⟩, by decide +kernel, ?_, by simp, ?_⟩
    · rintro _ ⟨rfl⟩
      decide
    · exact fun h => absurd h (by decide +kernel)
  have hbytes : Param.WellFormed ⟨"(bytes)", none, none⟩ :=
    ⟨by decide +kernel, by decide +kernel, by decide +kernel,
      ⟨by decide +kernel, by decide +kernel⟩, by decide +kernel, by simp, by simp,
      .inr (by decide +kernel)⟩
  refine ⟨by decide +kernel, ?_⟩
  refine Signature.read_render_of_wellFormed .function (by decide) guardedHeader ?_
  refine ⟨?_, by simp [guardedHeader], ?_, ?_, ?_, by simp⟩
  · rintro _ ⟨rfl⟩
    exact ⟨by decide, List.all_eq_true.1 (by decide)⟩
  · simp [guardedHeader, hmapping, hkeyword]
  · simp only [guardedHeader, List.forall_mem_cons]
    refine ⟨⟨⟨by decide, List.all_eq_true.1 (by decide)⟩, by decide, by decide, ?_⟩,
      ⟨⟨by decide, List.all_eq_true.1 (by decide)⟩, by decide⟩, by simp⟩
    simp only [List.forall_mem_cons]
    exact ⟨⟨by decide +kernel, by decide +kernel, by decide +kernel⟩,
      ⟨by decide +kernel, by decide +kernel, by decide +kernel⟩, by simp⟩
  · rintro _ ⟨rfl⟩
    simp [hbytes]

end ContractDocs
