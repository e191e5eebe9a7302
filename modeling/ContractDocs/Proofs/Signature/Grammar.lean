/-
The callables that are accepted, by their grammar.

# The grammar

A header is a name, a list between parentheses, and clauses behind it.
`Matched` says which parentheses belong together, `Spelled` which texts are
clauses, and `Form.Spells` which text is a header of the given parts. None of
the three mentions the reader. That a parenthesis always goes to the word
before it is no rule of its own: no clause begins with one
(`Spelled.head_ne`).

# What is accepted

Not everything spelled is allowed. `IsParamList` is asked of a list, and comes
down to the characters of its entries (`isParamList_iff`); `Clause.Allowed` is
asked of each clause, `Form.Allowed` of the whole. `Tail.add_eq_ok_iff` is the
step, one clause accepted, and `Tail.foldlM_eq_ok_iff` the run. The theorem is
`Signature.callable_grammar`: the reader accepts the allowed forms and no
other text, and returns what `Form.header` collects from the form.
-/
import ContractDocs.Proofs.Signature.WellFormed

namespace ContractDocs

open Text Grouping

-- ================================================ matching parentheses

namespace Grouping

/-- A text whose parentheses match. -/
inductive Matched : List Char → Prop
  | nil : Matched []
  | char {c : Char} {x : List Char} (hopen : c ≠ '(') (hclose : c ≠ ')')
      (hx : Matched x) : Matched (c :: x)
  | group {x y : List Char} (hx : Matched x) (hy : Matched y) :
      Matched ('(' :: (x ++ ')' :: y))

theorem Matched.enclosed_append {x : List Char} (h : Matched x) :
    ∀ (depth : Nat) (y : List Char), enclosed depth (x ++ y) = enclosed depth y := by
  induction h with
  | nil => exact fun _ _ => rfl
  | char hopen hclose _ ih =>
      intro depth y
      rw [List.cons_append, enclosed, if_neg hopen, if_neg hclose, ih]
  | group _ _ ihx ihy =>
      intro depth y
      rw [List.cons_append, enclosed, if_pos rfl, List.append_assoc, ihx,
        List.cons_append, enclosed, if_neg (by decide), if_pos rfl,
        Nat.add_sub_cancel, ihy]
      simp

/-- A text that closes what is open before it matches up to the first of
these parentheses. -/
theorem exists_matched_of_enclosed {depth : Nat} {x : List Char}
    (h : enclosed depth x = true) :
    ∃ p rest, x = p ++ rest ∧ Matched p
      ∧ (depth = 0 ∧ rest = []
        ∨ ∃ k q, depth = k + 1 ∧ rest = ')' :: q ∧ enclosed k q = true) := by
  -- a group hides two shorter texts, so the induction is on the length
  induction hn : x.length using Nat.strong_induction_on generalizing x depth with
  | _ n ih =>
      cases x with
      | nil => exact ⟨[], [], rfl, .nil, .inl ⟨by simpa [enclosed] using h, rfl⟩⟩
      | cons c x =>
          rw [List.length_cons] at hn
          rw [enclosed] at h
          by_cases hopen : c = '('
          · subst hopen
            rw [if_pos rfl] at h
            obtain ⟨p, _, rfl, hp, ⟨hd, -⟩ | ⟨k, q, hk, rfl, hq⟩⟩ :=
              ih x.length (by omega) h rfl
            · cases hd
            · cases hk
              rw [List.length_append, List.length_cons] at hn
              obtain ⟨r, rest, rfl, hr, hrest⟩ := ih q.length (by omega) hq rfl
              exact ⟨_, rest, by simp, .group hp hr, hrest⟩
          · rw [if_neg hopen] at h
            by_cases hclose : c = ')'
            · subst hclose
              rw [if_pos rfl, Bool.and_eq_true, decide_eq_true_eq] at h
              exact ⟨[], _, rfl, .nil, .inr ⟨depth - 1, x, by omega, rfl, h.2⟩⟩
            · rw [if_neg hclose] at h
              obtain ⟨p, rest, rfl, hp, hrest⟩ := ih x.length (by omega) h rfl
              exact ⟨_, rest, rfl, .char hopen hclose hp, hrest⟩

/-- What fits between parentheses is what matches on its own. -/
theorem enclosed_iff_matched {x : List Char} : enclosed 0 x = true ↔ Matched x := by
  constructor
  · intro h
    obtain ⟨p, rest, rfl, hp, ⟨-, rfl⟩ | ⟨k, q, hk, -⟩⟩ := exists_matched_of_enclosed h
    · rwa [List.append_nil]
    · cases hk
  · intro h
    have hnil := h.enclosed_append 0 []
    rwa [List.append_nil] at hnil

end Grouping

namespace CallableHeader

-- ============================================================ clauses

/-- How clauses are written: words between blanks, each with the group behind
it. A word runs as far as it can. -/
inductive Spelled : List Char → List Clause → Prop
  | nil {text : List Char} (h : isBlankText text = true) : Spelled text []
  | word {lead rest : List Char} {word : String} {found : List Clause}
      (hlead : isBlankText lead = true) (hw : IsName word)
      (hmax : startsWord rest = false) (hrest : Spelled rest found) :
      Spelled (lead ++ (word.toList ++ rest)) (⟨word, none⟩ :: found)
  | group {lead gap list rest : List Char} {word : String} {found : List Clause}
      (hlead : isBlankText lead = true) (hw : IsName word)
      (hgap : isBlankText gap = true) (hlist : Matched list)
      (hrest : Spelled rest found) :
      Spelled (lead ++ (word.toList ++ (gap ++ '(' :: (list ++ ')' :: rest))))
        (⟨word, some list⟩ :: found)

/-- No clause begins with a parenthesis. -/
theorem Spelled.head_ne {text : List Char} {found : List Clause}
    (h : Spelled text found) : (trimStart text).head? ≠ some '(' := by
  have hword : ∀ {word : String}, IsName word → ∀ rest : List Char,
      (word.toList ++ rest).head? ≠ some '(' := by
    intro word hw rest hhead
    have hstart := hw.startsWord rest
    rw [startsWord, hhead] at hstart
    exact absurd hstart (by decide)
  cases h with
  | nil h =>
      rw [trimStart, List.dropWhile_eq_nil_iff.2 (List.all_eq_true.1 h)]
      exact (Option.some_ne_none _).symm
  | word hlead hw _ _ =>
      rw [trimStart_blank_append hlead, hw.trimStart_append]
      exact hword hw _
  | group hlead hw _ _ _ =>
      rw [trimStart_blank_append hlead, hw.trimStart_append]
      exact hword hw _

/-- Blanks before the first clause make no difference. -/
theorem clauses_blank_append {b : List Char} (hb : isBlankText b = true)
    (x : List Char) : clauses (b ++ x) = clauses (' ' :: x) := by
  have htrim : trimStart (b ++ x) = trimStart (' ' :: x) := by
    rw [trimStart_blank_append hb, trimStart, trimStart,
      List.dropWhile_cons_of_pos isBlank_space]
  rw [clauses, clauses, htrim]

/-- Clauses are found where they are spelled. -/
theorem Spelled.clauses_eq {text : List Char} {found : List Clause}
    (h : Spelled text found) : clauses text = (found, none) := by
  induction h with
  | nil h => exact clauses_of_blank h
  | word hlead hw hmax hrest ih =>
      rw [clauses_blank_append hlead, clauses_word hw ⟨hmax, hrest.head_ne⟩, ih]
  | group hlead hw hgap hlist _ ih =>
      rw [clauses_blank_append hlead,
        clauses_group hw hgap (enclosed_iff_matched.2 hlist), ih]

/-- A text that begins with a word, cut behind it. -/
theorem cut_first_word {text more : List Char} {c : Char}
    (hbody : trimStart text = c :: more) (hc : isWord c = true) :
    IsName (String.ofList ((c :: more).takeWhile isWord))
      ∧ ∃ lead, isBlankText lead = true
        ∧ text = lead ++ ((String.ofList ((c :: more).takeWhile isWord)).toList
          ++ more.dropWhile isWord) := by
  obtain ⟨lead, hlead, htext⟩ := trimStart_cut text
  refine ⟨.takeWhile ?_, lead, hlead, ?_⟩
  · rw [List.takeWhile_cons_of_pos hc]
    exact List.cons_ne_nil _ _
  · rw [String.toList_ofList, List.takeWhile_cons_of_pos hc, List.cons_append,
      List.takeWhile_append_dropWhile, ← hbody]
    exact htext

/-- A text read to its end without a fault spells the clauses found. -/
theorem spelled_of_clauses (text : List Char) :
    (clauses text).2 = none → Spelled text (clauses text).1 := by
  fun_induction clauses text with
  | case1 text hbody =>
      intro _
      exact .nil (List.all_eq_true.2 (List.dropWhile_eq_nil_iff.1 hbody))
  | case2 text c more hbody hc word rest inside hrest group after hclose
      others fault hothers ih =>
      intro hfault
      rw [hothers] at ih
      obtain ⟨hword, lead, hlead, htext⟩ := cut_first_word hbody hc
      obtain ⟨gap, hgap, hafter⟩ := trimStart_cut rest
      rw [hrest, eq_append_of_closeGroup hclose] at hafter
      rw [htext, show more.dropWhile isWord = _ from hafter]
      exact .group hlead hword hgap
        (enclosed_iff_matched.1 (enclosed_of_closeGroup hclose)) (ih hfault)
  | case3 text c more hbody hc rest inside hrest hclose =>
      intro hfault
      cases hfault
  | case4 text c more hbody hc word rest others fault hothers hrest ih =>
      intro hfault
      rw [hothers] at ih
      obtain ⟨hword, lead, hlead, htext⟩ := cut_first_word hbody hc
      rw [htext]
      exact .word hlead hword (startsWord_dropWhile more) (ih hfault)
  | case5 text c more hbody hc =>
      intro hfault
      cases hfault

-- =============================================================== heads

/-- A head is read exactly where one is spelled. -/
theorem readHead_eq_ok_iff {text list tail : List Char} {name : Option String} :
    readHead text = .ok (name, list, tail)
      ↔ (∀ n ∈ name, IsName n) ∧ Matched list
        ∧ ∃ lead gap, isBlankText lead = true ∧ isBlankText gap = true
          ∧ text = lead ++ ((name.getD "").toList
            ++ (gap ++ '(' :: (list ++ ')' :: tail))) := by
  constructor
  · intro h
    obtain ⟨hname, hlist⟩ := isName_of_readHead h
    refine ⟨hname, enclosed_iff_matched.1 hlist, ?_⟩
    obtain ⟨lead, hlead, htext⟩ := trimStart_cut text
    obtain ⟨gap, hgap, hafter⟩ := trimStart_cut ((trimStart text).dropWhile isWord)
    refine ⟨lead, gap, hlead, hgap, ?_⟩
    rw [readHead] at h
    split at h
    · next rest hrest =>
        split at h
        · next hclose =>
            cases h
            have hwritten : ((if ((trimStart text).takeWhile isWord).isEmpty = true then none
                else some (String.ofList ((trimStart text).takeWhile isWord))).getD "").toList
                = (trimStart text).takeWhile isWord := by
              split
              · next hempty => rw [List.isEmpty_iff.1 hempty]; rfl
              · rw [Option.getD_some, String.toList_ofList]
            rw [hwritten, ← eq_append_of_closeGroup hclose, ← hrest, ← hafter,
              List.takeWhile_append_dropWhile, ← htext]
        · cases h
    · cases h
  · rintro ⟨hname, hlist, lead, gap, hlead, hgap, rfl⟩
    exact readHead_append hname hlead hgap (enclosed_iff_matched.2 hlist)

/-- The name a callable is recorded under. -/
def recordedName (kind : Kind) (written : Option String) : Option String :=
  match written, kind with
  | none, .constructor => some "constructor"
  | _, _ => written

theorem settleName_eq_ok_iff {kind : Kind} {written name : Option String}
    {list : List Char} :
    settleName kind written list = .ok name
      ↔ (written = none → kind = .constructor
          ∨ kind = .function ∧ isBlankText list = true)
        ∧ name = recordedName kind written := by
  cases written with
  | some n => grind [settleName, recordedName]
  | none => cases kind <;> grind [settleName, recordedName]

-- =============================================================== lists

/-- Every entry of the list is a parameter. -/
def IsParamList (list : List Char) : Prop :=
  ∀ entry ∈ splitTopLevelChars list, (Param.read (String.ofList entry)).isSome = true

instance (list : List Char) : Decidable (IsParamList list) :=
  List.decidableBAll (fun entry => (Param.read (String.ofList entry)).isSome = true) _

/-- The parameters among the entries of a list. -/
def paramsOf (list : List Char) : List Param :=
  (splitTopLevelChars list).filterMap fun entry => Param.read (String.ofList entry)

/-- An entry is a parameter unless it holds a character that no type has. -/
theorem isParamList_iff {list : List Char} :
    IsParamList list
      ↔ ∀ entry ∈ splitTopLevelChars list, ∀ c ∈ entry, Slot.isTypeChar c = true := by
  refine forall₂_congr fun entry hentry => ?_
  obtain ⟨-, -, hne⟩ := mem_splitTopLevelChars hentry
  rw [Param.read, String.toList_ofList, Option.isSome_map]
  constructor
  · intro h c hc
    obtain ⟨slot, hslot⟩ := Option.isSome_iff_exists.1 h
    obtain ⟨rest, hreads⟩ := Slot.reads_of_read hslot hne
    exact hreads.isTypeChar_of_mem hc
  · intro h
    obtain ⟨slot, hslot⟩ := Slot.exists_read hne h
    rw [hslot]
    rfl

theorem readParams_eq_ok_iff_isParamList {list : List Char} {params : List Param} :
    readParams list = .ok params ↔ IsParamList list ∧ params = paramsOf list := by
  rw [readParams_eq_ok_iff, IsParamList, paramsOf]
  generalize splitTopLevelChars list = entries
  induction entries generalizing params with
  | nil => simp
  | cons entry entries ih =>
      rw [List.forall₂_cons_left_iff, List.forall_mem_cons]
      constructor
      · rintro ⟨param, others, hparam, hothers, rfl⟩
        obtain ⟨hall, rfl⟩ := ih.1 hothers
        exact ⟨⟨by rw [hparam]; rfl, hall⟩,
          (List.filterMap_cons_some (f := fun e => Param.read (String.ofList e)) hparam).symm⟩
      · rintro ⟨⟨hsome, hall⟩, rfl⟩
        obtain ⟨param, hparam⟩ := Option.isSome_iff_exists.1 hsome
        exact ⟨param, _, hparam, ih.2 ⟨hall, rfl⟩, List.filterMap_cons_some hparam⟩

-- =============================================================== tails

namespace Clause

/-- What a clause says about the modifiers. -/
def modifier? (clause : Clause) : Option Modifier :=
  if clause.word = "returns" then none
  else match clause.group with
    | none => some (.word clause.word)
    | some list => some (.call clause.word ((splitTopLevelChars list).map String.ofList))

/-- What a clause says about the values returned. -/
def returns? (clause : Clause) : Option (List Param) :=
  if clause.word = "returns" then clause.group.map paramsOf else none

/-- A clause that is accepted, as far as it depends on the clause alone. -/
structure Allowed (clause : Clause) : Prop where
  returns : clause.word = "returns" → ∃ list, clause.group = some list ∧ IsParamList list
  bare : clause.word ∈ bareKeywords → clause.group = none

end Clause

namespace Tail

/-- One clause accepted: `returns` comes once, and every other clause is one
more modifier. -/
theorem add_eq_ok_iff {tail tail' : Tail} {clause : Clause} :
    tail.add clause = .ok tail'
      ↔ clause.Allowed ∧ (clause.word = "returns" → tail.returns = none)
        ∧ tail' = ⟨tail.modifiers ++ clause.modifier?.toList,
          tail.returns.or clause.returns?⟩ := by
  obtain ⟨word, group⟩ := clause
  obtain ⟨modifiers, returns⟩ := tail
  by_cases hreturns : word = "returns"
  · subst hreturns
    rw [Tail.add, if_pos rfl, Clause.modifier?, if_pos rfl, Clause.returns?, if_pos rfl,
      Option.toList_none, List.append_nil]
    cases group with
    | none =>
        constructor
        · intro h
          cases h
        · rintro ⟨h, -, -⟩
          obtain ⟨list, hlist, -⟩ := h.returns rfl
          cases hlist
    | some list =>
        cases returns with
        | some params =>
            constructor
            · intro h
              cases h
            · rintro ⟨-, h, -⟩
              cases h rfl
        | none =>
            show (readParams list >>= _) = _ ↔ _
            rw [bind_eq_ok_iff]
            constructor
            · rintro ⟨params, hparams, h⟩
              cases h
              obtain ⟨hlist, rfl⟩ := readParams_eq_ok_iff_isParamList.1 hparams
              have hbare : "returns" ∉ bareKeywords := by decide
              exact ⟨⟨fun _ => ⟨list, rfl, hlist⟩, fun h => absurd h hbare⟩,
                fun _ => rfl, rfl⟩
            · rintro ⟨h, -, rfl⟩
              obtain ⟨_, ⟨rfl⟩, hlist⟩ := h.returns rfl
              exact ⟨_, readParams_eq_ok_iff_isParamList.2 ⟨hlist, rfl⟩, rfl⟩
  · rw [Tail.add, if_neg hreturns, Clause.modifier?, if_neg hreturns, Clause.returns?,
      if_neg hreturns, Option.or_none]
    cases group with
    | none =>
        constructor
        · intro h
          cases h
          exact ⟨⟨fun h => absurd h hreturns, fun _ => rfl⟩,
            fun h => absurd h hreturns, rfl⟩
        · rintro ⟨-, -, rfl⟩
          rfl
    | some list =>
        dsimp only
        split
        · next hbare =>
            constructor
            · intro h
              cases h
            · rintro ⟨h, -, -⟩
              cases h.bare (List.contains_iff_mem.1 hbare)
        · next hbare =>
            constructor
            · intro h
              cases h
              exact ⟨⟨fun h => absurd h hreturns,
                fun h => absurd (List.contains_iff_mem.2 h) hbare⟩,
                fun h => absurd h hreturns, rfl⟩
            · rintro ⟨-, -, rfl⟩
              rfl

/-- A tail holds one return list for each `returns` it has accepted. -/
theorem length_returns_add {returns : Option (List Param)} {clause : Clause}
    (hclause : clause.Allowed) (hfirst : clause.word = "returns" → returns = none) :
    (returns.or clause.returns?).toList.length
      = returns.toList.length + if clause.word = "returns" then 1 else 0 := by
  by_cases h : clause.word = "returns"
  · obtain ⟨list, hlist, -⟩ := hclause.returns h
    simp [Clause.returns?, h, hlist, hfirst h]
  · simp [Clause.returns?, h]

/-- All clauses accepted, in order. -/
theorem foldlM_eq_ok_iff {found : List Clause} :
    ∀ {tail tail' : Tail}, found.foldlM Tail.add tail = .ok tail'
      ↔ (∀ clause ∈ found, clause.Allowed)
        ∧ tail.returns.toList.length + found.countP (·.word = "returns") ≤ 1
        ∧ tail' = ⟨tail.modifiers ++ found.filterMap Clause.modifier?,
          tail.returns.or (found.findSome? Clause.returns?)⟩ := by
  induction found with
  | nil =>
      intro tail tail'
      obtain ⟨modifiers, returns⟩ := tail
      rw [List.foldlM_nil, List.filterMap_nil, List.append_nil, List.findSome?_nil,
        Option.or_none]
      constructor
      · intro h
        cases h
        refine ⟨fun _ h => (List.not_mem_nil h).elim, ?_, rfl⟩
        cases returns <;> simp
      · rintro ⟨-, -, rfl⟩
        rfl
  | cons clause found ih =>
      intro tail tail'
      have hmodifiers : (clause :: found).filterMap Clause.modifier?
          = clause.modifier?.toList ++ found.filterMap Clause.modifier? := by
        cases h : clause.modifier? <;> simp [h]
      have hreturns : (clause :: found).findSome? Clause.returns?
          = clause.returns?.or (found.findSome? Clause.returns?) := by
        cases h : clause.returns? <;> simp [h]
      rw [List.foldlM_cons, bind_eq_ok_iff, List.forall_mem_cons, hmodifiers, hreturns,
        List.countP_cons, ← List.append_assoc, ← Option.or_assoc]
      simp only [decide_eq_true_eq]
      constructor
      · rintro ⟨next, hadd, hfold⟩
        obtain ⟨hclause, hfirst, rfl⟩ := add_eq_ok_iff.1 hadd
        obtain ⟨hfound, honce, rfl⟩ := ih.1 hfold
        rw [length_returns_add hclause hfirst] at honce
        exact ⟨⟨hclause, hfound⟩, by omega, rfl⟩
      · rintro ⟨⟨hclause, hfound⟩, honce, rfl⟩
        have hfirst : clause.word = "returns" → tail.returns = none := by
          intro h
          rw [if_pos h] at honce
          exact Option.toList_eq_nil_iff.1 (List.length_eq_zero_iff.1 (by omega))
        refine ⟨_, add_eq_ok_iff.2 ⟨hclause, hfirst, rfl⟩, ih.2 ⟨hfound, ?_, rfl⟩⟩
        rw [length_returns_add hclause hfirst]
        omega

end Tail

/-- A tail is read exactly from clauses that are spelled and allowed. -/
theorem readTail_eq_ok_iff_spelled {text : List Char} {tail : Tail} :
    readTail text = .ok tail
      ↔ ∃ found, Spelled text found ∧ (∀ clause ∈ found, clause.Allowed)
        ∧ found.countP (·.word = "returns") ≤ 1
        ∧ tail = ⟨found.filterMap Clause.modifier?, found.findSome? Clause.returns?⟩ := by
  rw [readTail_eq_ok_iff, Tail.foldlM_eq_ok_iff]
  simp only [Option.toList_none, List.length_nil, Nat.zero_add, List.nil_append,
    Option.none_or]
  constructor
  · rintro ⟨⟨hallowed, honce, htail⟩, hfault⟩
    exact ⟨_, spelled_of_clauses text hfault, hallowed, honce, htail⟩
  · rintro ⟨found, hspelled, hallowed, honce, htail⟩
    rw [hspelled.clauses_eq]
    exact ⟨⟨hallowed, honce, htail⟩, rfl⟩

-- =============================================================== forms

/-- The parts a header is written from: the name, the text of the parameter
list, and the clauses in the text behind it. -/
structure Form where
  name : Option String
  list : List Char
  tail : List Char
  clauses : List Clause

namespace Form

/-- The text is these parts, in order, with blanks around the name. -/
structure Spells (form : Form) (text : List Char) : Prop where
  text : ∃ lead gap, isBlankText lead = true ∧ isBlankText gap = true
    ∧ text = lead ++ ((form.name.getD "").toList
      ++ (gap ++ '(' :: (form.list ++ ')' :: form.tail)))
  name : ∀ n ∈ form.name, IsName n
  list : Matched form.list
  tail : Spelled form.tail form.clauses

/-- What a callable of this kind may say. -/
structure Allowed (kind : Kind) (form : Form) : Prop where
  name : form.name = none →
    kind = .constructor ∨ kind = .function ∧ isBlankText form.list = true
  params : IsParamList form.list
  bare : kind = .modifier → isBlankText form.tail = true
  clauses : ∀ clause ∈ form.clauses, clause.Allowed
  returns : form.clauses.countP (·.word = "returns") ≤ 1

/-- The callable that the parts describe. -/
def header (kind : Kind) (form : Form) : CallableHeader where
  name := recordedName kind form.name
  params := paramsOf form.list
  modifiers := form.clauses.filterMap Clause.modifier?
  returns := form.clauses.findSome? Clause.returns?

end Form

theorem read_eq_ok_iff_form {kind : Kind} {text : List Char} {header : CallableHeader} :
    read kind text = .ok header
      ↔ ∃ form : Form, form.Spells text ∧ form.Allowed kind
        ∧ header = form.header kind := by
  rw [read_eq_ok_iff]
  constructor
  · rintro ⟨written, list, rest, tail, hhead, hname, hparams, hkind, htail, rfl⟩
    obtain ⟨hwritten, hlist, htext⟩ := readHead_eq_ok_iff.1 hhead
    obtain ⟨hnamed, hname⟩ := settleName_eq_ok_iff.1 hname
    obtain ⟨hentries, hparams⟩ := readParams_eq_ok_iff_isParamList.1 hparams
    obtain ⟨found, hspelled, hallowed, honce, htail⟩ :=
      readTail_eq_ok_iff_spelled.1 htail
    refine ⟨⟨written, list, rest, found⟩, ⟨htext, hwritten, hlist, hspelled⟩,
      ⟨hnamed, hentries, hkind, hallowed, honce⟩, ?_⟩
    obtain ⟨name, params, modifiers, returns⟩ := header
    cases htail
    subst hname hparams
    rfl
  · rintro ⟨form, hspells, hallowed, rfl⟩
    exact ⟨form.name, form.list, form.tail, _,
      readHead_eq_ok_iff.2 ⟨hspells.name, hspells.list, hspells.text⟩,
      settleName_eq_ok_iff.2 ⟨hallowed.name, rfl⟩,
      readParams_eq_ok_iff_isParamList.2 ⟨hallowed.params, rfl⟩, hallowed.bare,
      readTail_eq_ok_iff_spelled.2
        ⟨form.clauses, hspells.tail, hallowed.clauses, hallowed.returns, rfl⟩, rfl⟩

end CallableHeader

/-- A callable header is accepted exactly when it is spelled by the grammar
and says nothing that its kind forbids, and what is returned is the callable
its parts describe. -/
theorem Signature.callable_grammar (kind : Kind)
    (hkind : kind ∈ [.constructor, .function, .event, .modifier])
    (header : String) (signature : Signature) :
    Signature.read kind header = .ok signature
      ↔ ∃ form : CallableHeader.Form, form.Spells header.toList ∧ form.Allowed kind
        ∧ signature = .callable (form.header kind) := by
  rw [Signature.read_eq_callable hkind, map_eq_ok_iff]
  constructor
  · rintro ⟨callable, hread, rfl⟩
    obtain ⟨form, hspells, hallowed, rfl⟩ := CallableHeader.read_eq_ok_iff_form.1 hread
    exact ⟨form, hspells, hallowed, rfl⟩
  · rintro ⟨form, hspells, hallowed, rfl⟩
    exact ⟨_, CallableHeader.read_eq_ok_iff_form.2 ⟨form, hspells, hallowed, rfl⟩, rfl⟩

/-- Blanks in the places the grammar leaves free, a group right behind its
word and one that is not, and `returns` between two modifiers. -/
def spacedForm : CallableHeader.Form where
  name := some "pay"
  list := " uint a,, bytes memory ".toList
  tail := "view returns( bool )guard (f(1,2) )".toList
  clauses := [⟨"view", none⟩, ⟨"returns", some " bool ".toList⟩,
    ⟨"guard", some "f(1,2) ".toList⟩]

theorem spacedForm_read :
    Signature.read .function " pay ( uint a,, bytes memory )view returns( bool )guard (f(1,2) )"
      = .ok (.callable ⟨some "pay",
        [⟨"uint", none, some "a"⟩, ⟨"bytes", some "memory", none⟩],
        [.word "view", .call "guard" ["f(1,2)"]], some [⟨"bool", none, none⟩]⟩) := by
  have hspells : spacedForm.Spells
      " pay ( uint a,, bytes memory )view returns( bool )guard (f(1,2) )".toList := by
    have htail : spacedForm.tail = [] ++ ("view".toList ++ ([' '] ++ ("returns".toList
        ++ ([] ++ '(' :: (" bool ".toList ++ ')' :: ([] ++ ("guard".toList
          ++ ([' '] ++ '(' :: ("f(1,2) ".toList ++ [')']))))))))) := by
      decide +kernel
    refine ⟨⟨[' '], [' '], rfl, rfl, by decide +kernel⟩, ?_,
      enclosed_iff_matched.1 (by decide +kernel), ?_⟩
    · rintro _ ⟨rfl⟩
      exact ⟨by decide, List.all_eq_true.1 (by decide)⟩
    · rw [htail]
      refine .word rfl ?_ rfl (.group rfl ?_ rfl ?_ (.group rfl ?_ rfl ?_ (.nil rfl)))
      · exact ⟨by decide, List.all_eq_true.1 (by decide)⟩
      · exact ⟨by decide, List.all_eq_true.1 (by decide)⟩
      · exact enclosed_iff_matched.1 (by decide +kernel)
      · exact ⟨by decide, List.all_eq_true.1 (by decide)⟩
      · exact enclosed_iff_matched.1 (by decide +kernel)
  refine (Signature.callable_grammar .function (by decide) _ _).2
    ⟨spacedForm, hspells, ⟨by simp [spacedForm], ?_, by simp, ?_, by decide⟩, ?_⟩
  · decide +kernel
  · simp only [spacedForm, List.forall_mem_cons]
    refine ⟨⟨fun h => absurd h (by decide), fun _ => rfl⟩,
      ⟨fun _ => ⟨_, rfl, by decide +kernel⟩, fun h => absurd h (by decide)⟩,
      ⟨fun h => absurd h (by decide), fun h => absurd h (by decide)⟩, by simp⟩
  · decide +kernel

end ContractDocs
