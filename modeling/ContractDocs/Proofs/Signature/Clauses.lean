/-
The clauses after a parameter list, read from their canonical form.

The canonical tail of a callable writes the modifiers first and `returns`
last, wherever it stood, so the clauses come in another order than they were
read in. What carries over is not the list of clauses but what they amount
to:

- `StableModifier` says of one modifier that its canonical form is one
  clause, and that the clause adds this modifier to any tail.
- `Tail.Stable` asks that of every modifier, and of the return list that it
  is read back. `Tail.Stable.add` is the step: an accepted clause keeps it.
  `stable_of_readTail` is the run.
- `readTail_written` is the converse: a stable tail is read back from its
  canonical form.

The lists themselves, parameters or arguments, are respelled entry by entry
(`readParams_joined`, `splitTopLevelChars_joined`).
-/
import ContractDocs.Proofs.Accepted
import ContractDocs.Proofs.Signature.Grouping
import ContractDocs.Proofs.Signature.Slot
import ContractDocs.Signature.Header
import ContractDocs.Signature.Render

namespace ContractDocs

open Text Grouping

-- =============================================================== names

/-- A word, as the readers of headers accept it for a name. -/
@[mk_iff]
structure IsName (name : String) : Prop where
  ne_nil : name.toList ≠ []
  isWord : ∀ c ∈ name.toList, isWord c = true

instance (name : String) : Decidable (IsName name) :=
  decidable_of_iff (name.toList ≠ [] ∧ name.toList.all isWord = true)
    ((and_congr_right' List.all_eq_true).trans (isName_iff name).symm)

namespace IsName

/-- The first word of a text is a name. -/
theorem takeWhile {text : List Char} (h : (text.takeWhile Text.isWord) ≠ []) :
    IsName (String.ofList (text.takeWhile Text.isWord)) := by
  constructor
  · rwa [String.toList_ofList]
  · intro c hc
    rw [String.toList_ofList] at hc
    exact List.mem_takeWhile_imp hc

variable {name : String}

/-- A name begins with a word character. -/
theorem startsWord (h : IsName name) (rest : List Char) :
    Text.startsWord (name.toList ++ rest) = true := by
  cases hn : name.toList with
  | nil => exact absurd hn h.ne_nil
  | cons c x => exact h.isWord c (hn ▸ List.mem_cons_self ..)

/-- No blank stands before a name. -/
theorem trimStart_append (h : IsName name) (rest : List Char) :
    trimStart (name.toList ++ rest) = name.toList ++ rest := by
  cases hn : name.toList with
  | nil => exact absurd hn h.ne_nil
  | cons c x =>
      exact trimStart_cons_of_not_blank
        (isBlank_of_isWord (h.isWord c (hn ▸ List.mem_cons_self ..))) _

/-- A name in front of something else is the first word. -/
theorem takeWhile_append (h : IsName name) {rest : List Char}
    (hrest : Text.startsWord rest = false) :
    (name.toList ++ rest).takeWhile Text.isWord = name.toList
      ∧ (name.toList ++ rest).dropWhile Text.isWord = rest :=
  first_word_append h.isWord hrest

end IsName

-- ============================================================== lists

/-- The entries of a list in its canonical form. -/
def joined (entries : List String) : List Char :=
  [',', ' '].intercalate (entries.map String.toList)

/-- The arguments of a modifier are found again in their canonical form. -/
theorem splitTopLevelChars_joined (list : List Char) :
    splitTopLevelChars (joined ((splitTopLevelChars list).map String.ofList))
        = splitTopLevelChars list
      ∧ ∀ depth, enclosed depth
          (joined ((splitTopLevelChars list).map String.ofList))
        = enclosed depth list := by
  have hentries : joined ((splitTopLevelChars list).map String.ofList)
      = [',', ' '].intercalate (splitTopLevelChars list) := by
    rw [joined, List.map_map]
    congr 1
    exact List.map_id'' (fun e => String.toList_ofList) _
  rw [hentries]
  obtain ⟨hsplit, henclosed⟩ := splitTopLevelChars_respelled (s := list)
    (List.forall₂_same.2 fun e _ => rfl)
  refine ⟨?_, henclosed⟩
  rw [hsplit]
  conv_rhs => rw [← List.map_id (splitTopLevelChars list)]
  exact List.map_congr_left fun e he => (mem_splitTopLevelChars he).1

namespace CallableHeader

theorem readParams_eq_ok_iff {list : List Char} {params : List Param} :
    readParams list = .ok params
      ↔ List.Forall₂ (fun entry param =>
          Param.read (String.ofList entry) = some param)
        (splitTopLevelChars list) params := by
  rw [readParams, mapM_eq_ok_iff]
  constructor
  · refine List.Forall₂.imp fun entry param h => ?_
    split at h
    · next p hp =>
        cases h
        exact hp
    · cases h
  · refine List.Forall₂.imp fun entry param h => ?_
    rw [h]

/-- A parameter list is read back from its canonical form, which closes its
group where the first one did. -/
theorem readParams_joined {list : List Char} {params : List Param}
    (h : readParams list = .ok params) :
    readParams (joined (params.map Param.render)) = .ok params
      ∧ ∀ depth, enclosed depth (joined (params.map Param.render))
        = enclosed depth list := by
  rw [readParams_eq_ok_iff] at h
  -- what the reading of one entry says of the parameter written anew
  have hentries : List.Forall₂ (fun entry param =>
      tokens param.render.toList = tokens entry
        ∧ Param.read (String.ofList (collapse param.render.toList)) = some param)
      (splitTopLevelChars list) params := by
    have hmem : List.Forall₂ (fun entry param =>
        (OnlySpaces entry ∧ tokens entry ≠ [])
          ∧ Param.read (String.ofList entry) = some param)
        (splitTopLevelChars list) params :=
      (List.forall₂_and_left _ _).2 ⟨fun e he => (mem_splitTopLevelChars he).2, h⟩
    exact hmem.imp fun entry param ⟨⟨hsp, hne⟩, hread⟩ =>
      Param.read_collapse_render hsp hne hread
  have hrender : joined (params.map Param.render)
      = [',', ' '].intercalate (params.map (·.render.toList)) := by
    rw [joined, List.map_map]
    rfl
  obtain ⟨hsplit, henclosed⟩ := splitTopLevelChars_respelled (s := list)
    (List.forall₂_map_right_iff.2 (hentries.imp fun _ _ h => h.1))
  rw [hrender]
  refine ⟨?_, henclosed⟩
  rw [readParams_eq_ok_iff, hsplit, List.map_map, List.forall₂_map_left_iff,
    List.forall₂_same]
  have hflip : List.Forall₂ (fun param entry =>
      Param.read (String.ofList (collapse param.render.toList)) = some param
        ∧ tokens param.render.toList = tokens entry)
      params (splitTopLevelChars list) :=
    List.Forall₂.flip (hentries.imp fun _ _ h => h.symm)
  exact ((List.forall₂_and_left _ _).1 hflip).1

-- ============================================================ clauses

/-- A clause as the reader finds it: a word, and a group that closes where
its parenthesis does. -/
structure Clause.WellFormed (clause : Clause) : Prop where
  word : IsName clause.word
  group : ∀ list ∈ clause.group, enclosed 0 list = true

theorem wellFormed_of_mem_clauses (text : List Char) :
    ∀ clause ∈ (clauses text).1, clause.WellFormed := by
  fun_induction clauses text with
  | case1 text hbody =>
      intro clause h
      cases h
  | case2 text c more hbody hc word rest inside hrest group after hclose
      others fault hothers ih =>
      have hword : IsName (String.ofList word) :=
        .takeWhile (by rw [List.takeWhile_cons_of_pos hc]; exact List.cons_ne_nil _ _)
      intro clause h
      rcases List.mem_cons.1 h with rfl | h
      · refine ⟨hword, fun list hlist => ?_⟩
        cases hlist
        exact enclosed_of_closeGroup hclose
      · rw [hothers] at ih
        exact ih clause h
  | case3 text c more hbody hc rest inside hrest hclose =>
      intro clause h
      cases h
  | case4 text c more hbody hc word rest others fault hothers hrest ih =>
      have hword : IsName (String.ofList word) :=
        .takeWhile (by rw [List.takeWhile_cons_of_pos hc]; exact List.cons_ne_nil _ _)
      intro clause h
      rcases List.mem_cons.1 h with rfl | h
      · exact ⟨hword, fun list hlist => by cases hlist⟩
      · rw [hothers] at ih
        exact ih clause h
  | case5 text c more hbody hc =>
      intro clause h
      cases h

/-- Nothing is found in a text of blanks. -/
theorem clauses_of_blank {text : List Char} (h : isBlankText text = true) :
    clauses text = ([], none) := by
  have htrim : trimStart text = [] :=
    List.dropWhile_eq_nil_iff.2 (List.all_eq_true.1 h)
  rw [clauses]
  split
  · rfl
  · next c more hbody =>
      rw [htrim] at hbody
      cases hbody

/-- A word after one space, with the group that follows it. -/
theorem clauses_name_append {word : String} (hw : IsName word)
    {after : List Char} (hafter : startsWord after = false) :
    clauses (' ' :: (word.toList ++ after))
      = match trimStart after with
        | '(' :: inside =>
          match closeGroup 0 inside with
          | some (group, rest) =>
            (⟨word, some group⟩ :: (clauses rest).1, (clauses rest).2)
          | none => ([], some .unbalanced)
        | _ => (⟨word, none⟩ :: (clauses after).1, (clauses after).2) := by
  obtain ⟨htake, hdrop⟩ := hw.takeWhile_append hafter
  have htrim : trimStart (' ' :: (word.toList ++ after)) = word.toList ++ after := by
    rw [trimStart, List.dropWhile_cons_of_pos isBlank_space]
    exact hw.trimStart_append after
  rw [clauses]
  split
  · next hbody =>
      rw [htrim] at hbody
      exact absurd (List.append_eq_nil_iff.1 hbody).1 hw.ne_nil
  · next c more hbody =>
      have hc : isWord c = true := by
        have hstart := hw.startsWord after
        rwa [← htrim, hbody, startsWord_cons] at hstart
      have hdrop' : more.dropWhile isWord = after := by
        rw [← hdrop, ← htrim, hbody, List.dropWhile_cons_of_pos hc]
      rw [dif_pos hc, ← hbody, htrim, htake]
      simp only [hdrop', String.ofList_toList]
      split
      · next inside hrest =>
          split
          · next hclose => rw [← hdrop', hrest]; simp only [hclose]
          · next hclose => rw [← hdrop', hrest]; simp only [hclose]
      · next hrest =>
          rw [hdrop'] at hrest
          split
          · next inside hinside => exact absurd hinside (hrest inside)
          · rfl

/-- Where a clause without a group may stop: neither a word nor a group
follows. -/
structure Apart (rest : List Char) : Prop where
  word : startsWord rest = false
  group : (trimStart rest).head? ≠ some '('

theorem apart_nil : Apart [] :=
  ⟨startsWord_nil, by decide⟩

theorem apart_space {word : String} (hw : IsName word) (rest : List Char) :
    Apart (' ' :: (word.toList ++ rest)) := by
  refine ⟨by rw [startsWord_cons]; decide, ?_⟩
  have hstart := hw.startsWord rest
  rw [trimStart, List.dropWhile_cons_of_pos isBlank_space, ← trimStart,
    hw.trimStart_append]
  cases htext : word.toList ++ rest with
  | nil => exact (Option.some_ne_none _).symm
  | cons c x =>
      rw [htext, startsWord_cons] at hstart
      rw [List.head?_cons]
      rintro ⟨rfl⟩
      exact absurd hstart (by decide)

theorem clauses_word {word : String} (hw : IsName word) {rest : List Char}
    (hrest : Apart rest) :
    clauses (' ' :: (word.toList ++ rest))
      = (⟨word, none⟩ :: (clauses rest).1, (clauses rest).2) := by
  rw [clauses_name_append hw hrest.word]
  split
  · next inside hinside =>
      exact absurd (by rw [hinside]; rfl) hrest.group
  · rfl

theorem clauses_group {word : String} (hw : IsName word)
    {gap list rest : List Char} (hgap : isBlankText gap = true)
    (hlist : enclosed 0 list = true) :
    clauses (' ' :: (word.toList ++ (gap ++ '(' :: (list ++ ')' :: rest))))
      = (⟨word, some list⟩ :: (clauses rest).1, (clauses rest).2) := by
  have hstart : startsWord (gap ++ '(' :: (list ++ ')' :: rest)) = false :=
    startsWord_blank_append hgap (by rw [startsWord_cons]; decide)
  have htrim : trimStart (gap ++ '(' :: (list ++ ')' :: rest))
      = '(' :: (list ++ ')' :: rest) := by
    rw [trimStart_blank_append hgap]
    exact trimStart_cons_of_not_blank (by decide) _
  rw [clauses_name_append hw hstart, htrim]
  simp only [closeGroup_of_enclosed list rest 0 hlist]

-- ========================================================== modifiers

/-- The clause a modifier is written as. -/
def clauseOf : Modifier → Clause
  | .word text => ⟨text, none⟩
  | .call name args => ⟨name, some (joined args)⟩

/-- The canonical form of this modifier is one clause, and adds it again. -/
structure StableModifier (modifier : Modifier) : Prop where
  wellFormed : (clauseOf modifier).WellFormed
  add : ∀ tail : Tail, tail.add (clauseOf modifier)
    = .ok ⟨tail.modifiers ++ [modifier], tail.returns⟩

/-- The canonical form of this list fits between parentheses, and is read as
the same parameters. -/
structure StableParams (params : List Param) : Prop where
  enclosed : enclosed 0 (joined (params.map Param.render)) = true
  read : readParams (joined (params.map Param.render)) = .ok params

theorem stableParams_of_readParams {list : List Char} {params : List Param}
    (hlist : enclosed 0 list = true) (h : readParams list = .ok params) :
    StableParams params := by
  obtain ⟨hread, henclosed⟩ := readParams_joined h
  exact ⟨by rw [henclosed, hlist], hread⟩

/-- The canonical forms of the modifiers, in front of a text that no clause
runs into. -/
theorem clauses_modifiers_append {modifiers : List Modifier}
    (h : ∀ m ∈ modifiers, (clauseOf m).WellFormed)
    {rest : List Char} (hrest : Apart rest) :
    clauses ((modifiers.flatMap fun m => ' ' :: m.render.toList) ++ rest)
        = (modifiers.map clauseOf ++ (clauses rest).1, (clauses rest).2)
      ∧ Apart ((modifiers.flatMap fun m => ' ' :: m.render.toList) ++ rest) := by
  induction modifiers with
  | nil => exact ⟨rfl, hrest⟩
  | cons m modifiers ih =>
      obtain ⟨hclauses, hapart⟩ := ih fun m hm => h m (List.mem_cons_of_mem _ hm)
      have hm := h m (List.mem_cons_self ..)
      rw [List.flatMap_cons, List.append_assoc, List.map_cons]
      generalize (modifiers.flatMap fun m => ' ' :: m.render.toList) ++ rest
        = others at hclauses hapart
      cases m with
      | word text =>
          have hname : IsName text := hm.word
          refine ⟨?_, apart_space hname _⟩
          rw [Modifier.render, List.cons_append, clauses_word hname hapart,
            hclauses]
          rfl
      | call name args =>
          have hname : IsName name := hm.word
          have hargs : enclosed 0 (joined args) = true := hm.group _ rfl
          have htext : ' ' :: (Modifier.call name args).render.toList ++ others
              = ' ' :: (name.toList
                ++ ([] ++ '(' :: (joined args ++ ')' :: others))) := by
            simp [Modifier.render, joined]
          rw [htext]
          refine ⟨?_, apart_space hname _⟩
          rw [clauses_group hname rfl hargs, hclauses]
          rfl

-- ============================================================== tails

namespace Tail

/-- What the canonical form of a tail needs to be read back. -/
structure Stable (tail : Tail) : Prop where
  modifiers : ∀ m ∈ tail.modifiers, StableModifier m
  returns : ∀ params ∈ tail.returns, StableParams params

variable {tail tail' : Tail}

theorem Stable.push (h : tail.Stable) {modifier : Modifier}
    (hm : StableModifier modifier) :
    Stable ⟨tail.modifiers ++ [modifier], tail.returns⟩ := by
  refine ⟨fun m hmem => ?_, h.returns⟩
  rcases List.mem_append.1 hmem with hmem | hmem
  · exact h.modifiers m hmem
  · rw [List.mem_singleton.1 hmem]
    exact hm

/-- An accepted clause keeps a tail stable. -/
theorem Stable.add (h : tail.Stable) {clause : Clause}
    (hc : clause.WellFormed) (hadd : tail.add clause = .ok tail') :
    tail'.Stable := by
  obtain ⟨word, group⟩ := clause
  unfold Tail.add at hadd
  split at hadd
  · -- `returns`, which this tail did not have yet
    split at hadd
    · cases hadd
    · cases hadd
    · next list hlist hnone =>
        obtain ⟨params, hread, hadd⟩ := bind_eq_ok_iff.1 hadd
        cases hadd
        refine ⟨h.modifiers, fun ps hps => ?_⟩
        cases hps
        exact stableParams_of_readParams (hc.group list hlist) hread
  · next hword =>
      split at hadd
      · next hnone =>
          cases hadd
          cases hnone
          refine h.push ⟨hc, fun other => ?_⟩
          rw [Tail.add, clauseOf, if_neg hword]
      · next list hlist =>
          split at hadd
          · cases hadd
          · next hbare =>
              cases hadd
              cases hlist
              obtain ⟨hsplit, henclosed⟩ := splitTopLevelChars_joined list
              refine h.push ⟨⟨hc.word, fun args hargs => ?_⟩, fun other => ?_⟩
              · cases hargs
                rw [henclosed]
                exact hc.group list rfl
              · rw [Tail.add, clauseOf, if_neg hword]
                simp only [hsplit]
                rw [if_neg hbare]

theorem Stable.foldlM {found : List Clause} (hc : ∀ c ∈ found, c.WellFormed) :
    ∀ {tail : Tail}, tail.Stable → found.foldlM Tail.add tail = .ok tail' →
      tail'.Stable := by
  induction found with
  | nil =>
      intro tail h hfold
      cases hfold
      exact h
  | cons clause found ih =>
      intro tail h hfold
      rw [List.foldlM_cons] at hfold
      obtain ⟨next, hadd, hfold⟩ := bind_eq_ok_iff.1 hfold
      exact ih (fun c hc' => hc c (List.mem_cons_of_mem _ hc'))
        (h.add (hc clause (List.mem_cons_self ..)) hadd) hfold

/-- What stands behind the parameter list in the canonical form. -/
def written (tail : Tail) : List Char :=
  (tail.modifiers.flatMap fun m => ' ' :: m.render.toList)
    ++ match tail.returns with
      | none => []
      | some params =>
        ' ' :: ("returns".toList
          ++ ([' '] ++ '(' :: (joined (params.map Param.render) ++ [')'])))

/-- Modifiers are taken into account one after the other. -/
theorem foldlM_clauseOf {modifiers : List Modifier}
    (h : ∀ m ∈ modifiers, StableModifier m) :
    ∀ tail : Tail, (modifiers.map clauseOf).foldlM Tail.add tail
      = .ok ⟨tail.modifiers ++ modifiers, tail.returns⟩ := by
  induction modifiers with
  | nil =>
      intro tail
      rw [List.append_nil]
      rfl
  | cons m modifiers ih =>
      intro tail
      rw [List.map_cons, List.foldlM_cons,
        (h m (List.mem_cons_self ..)).add tail]
      show (modifiers.map clauseOf).foldlM Tail.add _ = _
      rw [ih fun m hm => h m (List.mem_cons_of_mem _ hm)]
      show Except.ok _ = Except.ok _
      rw [List.append_assoc, List.singleton_append]

end Tail

theorem readTail_eq_ok_iff {text : List Char} {tail : Tail} :
    readTail text = .ok tail
      ↔ (clauses text).1.foldlM Tail.add ⟨[], none⟩ = .ok tail
        ∧ (clauses text).2 = none := by
  rw [readTail]
  obtain ⟨found, fault⟩ := clauses text
  rw [bind_eq_ok_iff]
  cases fault with
  | none =>
      constructor
      · rintro ⟨tail', hfold, h⟩
        cases h
        exact ⟨hfold, rfl⟩
      · rintro ⟨hfold, -⟩
        exact ⟨tail, hfold, rfl⟩
  | some reason =>
      constructor
      · rintro ⟨tail', hfold, h⟩
        cases h
      · rintro ⟨-, h⟩
        cases h

/-- A tail that was read is stable. -/
theorem stable_of_readTail {text : List Char} {tail : Tail}
    (h : readTail text = .ok tail) : tail.Stable :=
  Tail.Stable.foldlM (wellFormed_of_mem_clauses text)
    ⟨fun _ hm => (List.not_mem_nil hm).elim, fun _ hps => by cases hps⟩
    (readTail_eq_ok_iff.1 h).1

theorem isName_returns : IsName "returns" :=
  ⟨by decide, List.all_eq_true.1 (by decide)⟩

/-- A stable tail is read back from its canonical form. -/
theorem readTail_written {tail : Tail} (h : tail.Stable) :
    readTail tail.written = .ok tail := by
  obtain ⟨modifiers, returns⟩ := tail
  have hwell : ∀ m ∈ modifiers, (clauseOf m).WellFormed :=
    fun m hm => (h.modifiers m hm).wellFormed
  have hfold := Tail.foldlM_clauseOf h.modifiers ⟨[], none⟩
  rw [readTail_eq_ok_iff, Tail.written]
  cases returns with
  | none =>
      obtain ⟨hclauses, -⟩ := clauses_modifiers_append hwell apart_nil
      have hnil : clauses [] = ([], none) := clauses_of_blank rfl
      rw [hclauses, hnil, List.append_nil]
      exact ⟨hfold, rfl⟩
  | some params =>
      have hparams := h.returns params rfl
      have hreturns := @clauses_group _ isName_returns [' '] _ [] rfl
        hparams.enclosed
      obtain ⟨hclauses, -⟩ := clauses_modifiers_append hwell
        (apart_space isName_returns
          ([' '] ++ '(' :: (joined (params.map Param.render) ++ [')'])))
      rw [hclauses, hreturns, clauses_of_blank rfl]
      refine ⟨?_, rfl⟩
      rw [List.foldlM_append, hfold]
      show Tail.add ⟨[] ++ modifiers, none⟩ ⟨"returns", some _⟩ >>= pure = _
      rw [bind_pure, Tail.add, if_pos rfl]
      show (readParams _ >>= _) = _
      rw [hparams.read]
      rfl

end CallableHeader

end ContractDocs
