/-
The parenthesis that closes a group is found by counting.

# Counting

A group stays open as long as every beginning of the text behind its
parenthesis closes no more than it opens (`StaysOpen`). The search fails on
such texts only (`closeGroup_eq_none_iff`). It ends at the first beginning
that closes one more; what stands before that parenthesis is `Paired`, and
nothing else can stand in the group (`closeGroup_eq_some_iff`).

# The counter

`closeGroup` counts the groups inside the one it closes. `search` is the same
search as a loop from the opening parenthesis on, with a counter that starts at
zero, is changed before it is tested, and could take any sign. A turn keeps the
counter one above the groups open inside (`turn_succ`, `turn_close`), and by
induction over the turns it is never negative and the loop stops at the same
parenthesis (`search_finds`).

# Positions

Positions are offsets in bytes, and the group that opens at one is `groupAt`.
That the bytes from one offset to another are those of a group fixes the other
offset and what the group holds (`closes_append_iff`). The theorem is
`group_found_by_counting`.
-/
import ContractDocs.Proofs.Signature.Grouping
import ContractDocs.Proofs.Text.Offsets

namespace ContractDocs.Grouping

open Text

-- =============================================================== counting

/-- The text closes no more than it opens, at no point of it; `depth` groups
are open before it. -/
def StaysOpen (depth : Nat) (text : List Char) : Prop :=
  ∀ p, p <+: text → p.count ')' ≤ depth + p.count '('

/-- A text whose parentheses pair up: it closes what it opens, and at no point
more than that. -/
structure Paired (text : List Char) : Prop where
  closed : text.count ')' = text.count '('
  open_first : ∀ p, p <+: text → p.count ')' ≤ p.count '('

theorem staysOpen_nil (depth : Nat) : StaysOpen depth [] := by
  intro p hp
  rw [List.prefix_nil.1 hp]
  simp

theorem staysOpen_cons {depth : Nat} {c : Char} {text : List Char} :
    StaysOpen depth (c :: text)
      ↔ ∀ p, p <+: text → (c :: p).count ')' ≤ depth + (c :: p).count '(' := by
  constructor
  · intro h p hp
    exact h _ (List.cons_prefix_cons.2 ⟨rfl, hp⟩)
  · intro h p hp
    rcases List.prefix_cons_iff.1 hp with rfl | ⟨q, rfl, hq⟩
    · simp
    · exact h q hq

theorem staysOpen_open {depth : Nat} {text : List Char} :
    StaysOpen depth ('(' :: text) ↔ StaysOpen (depth + 1) text := by
  rw [staysOpen_cons]
  refine forall₂_congr fun p _ => ?_
  rw [List.count_cons_of_ne (by decide), List.count_cons_self]
  omega

theorem staysOpen_close {depth : Nat} {text : List Char} :
    StaysOpen depth (')' :: text)
      ↔ ∃ k, depth = k + 1 ∧ StaysOpen k text := by
  rw [staysOpen_cons]
  constructor
  · intro h
    have hfirst := h [] List.nil_prefix
    rw [List.count_singleton_self, List.count_cons_of_ne (by decide),
      List.count_nil] at hfirst
    refine ⟨depth - 1, by omega, fun p hp => ?_⟩
    have hnext := h p hp
    rw [List.count_cons_self, List.count_cons_of_ne (by decide)] at hnext
    omega
  · rintro ⟨k, rfl, h⟩ p hp
    have hnext := h p hp
    rw [List.count_cons_self, List.count_cons_of_ne (by decide)]
    omega

theorem staysOpen_char {depth : Nat} {c : Char} {text : List Char}
    (hopen : c ≠ '(') (hclose : c ≠ ')') :
    StaysOpen depth (c :: text) ↔ StaysOpen depth text := by
  rw [staysOpen_cons]
  refine forall₂_congr fun p _ => ?_
  rw [List.count_cons_of_ne hopen, List.count_cons_of_ne hclose]

/-- The search fails where the group stays open to the end. -/
theorem closeGroup_eq_none_iff {depth : Nat} {text : List Char} :
    closeGroup depth text = none ↔ StaysOpen depth text := by
  fun_induction closeGroup depth text with
  | case1 depth => exact iff_of_true rfl (staysOpen_nil depth)
  | case2 rest => simp [staysOpen_close]
  | case3 rest depth ih => simp [staysOpen_close, ih]
  | case4 depth c rest hclose ih =>
      rw [Option.map_eq_none_iff, ih]
      by_cases hopen : c = '('
      · rw [if_pos hopen, hopen, staysOpen_open]
      · rw [if_neg hopen, staysOpen_char hopen hclose]

theorem enclosed_iff_staysOpen {x : List Char} :
    ∀ {depth : Nat}, enclosed depth x = true
      ↔ StaysOpen depth x ∧ x.count ')' = depth + x.count '(' := by
  induction x with
  | nil =>
      intro depth
      have hnil := staysOpen_nil depth
      simp [enclosed, hnil, eq_comm]
  | cons c x ih =>
      intro depth
      by_cases hopen : c = '('
      · subst hopen
        rw [enclosed, if_pos rfl, ih, staysOpen_open, List.count_cons_self,
          List.count_cons_of_ne (by decide)]
        exact and_congr_right fun _ => by omega
      by_cases hclose : c = ')'
      · subst hclose
        rw [enclosed, if_neg hopen, if_pos rfl, staysOpen_close,
          List.count_cons_self, List.count_cons_of_ne (by decide)]
        cases depth with
        | zero => simp
        | succ depth =>
            simp only [Nat.zero_lt_succ, decide_true, Bool.true_and,
              Nat.add_sub_cancel, ih, Nat.add_right_cancel_iff,
              exists_eq_left']
            exact and_congr_right fun _ => by omega
      · rw [enclosed, if_neg hopen, if_neg hclose, ih,
          staysOpen_char hopen hclose, List.count_cons_of_ne hopen,
          List.count_cons_of_ne hclose]

theorem enclosed_iff_paired {x : List Char} :
    enclosed 0 x = true ↔ Paired x := by
  rw [enclosed_iff_staysOpen, StaysOpen]
  simp only [Nat.zero_add]
  exact ⟨fun ⟨hopen, hclosed⟩ => ⟨hclosed, hopen⟩,
    fun ⟨hclosed, hopen⟩ => ⟨hopen, hclosed⟩⟩

/-- The search ends behind a text that can stand in the group. -/
theorem closeGroup_eq_some_iff {text inner after : List Char} :
    closeGroup 0 text = some (inner, after)
      ↔ text = inner ++ ')' :: after ∧ Paired inner := by
  rw [← enclosed_iff_paired]
  constructor
  · intro h
    exact ⟨eq_append_of_closeGroup h, enclosed_of_closeGroup h⟩
  · rintro ⟨rfl, h⟩
    exact closeGroup_of_enclosed inner after 0 h

-- ============================================================ the counter

/-- The counter after one more character. -/
def turn (depth : Int) (c : Char) : Int :=
  if c = '(' then depth + 1 else if c = ')' then depth - 1 else depth

/-- The search as a loop from the opening parenthesis on: the values that the
counter takes, and the offset of the parenthesis that brings it to zero. -/
def search (depth : Int) (offset : Nat) : List Char → List Int × Option Nat
  | [] => ([], none)
  | c :: rest =>
    let next := turn depth c
    if c = ')' ∧ next = 0 then ([next], some offset)
    else
      let later := search next (offset + c.utf8Size) rest
      (next :: later.1, later.2)

/-- While the group is open, the counter is one more than the groups open
inside of it. -/
theorem turn_succ (depth : Nat) {c : Char} (hclose : c ≠ ')') :
    turn (depth + 1) c
      = ((if c = '(' then depth + 1 else depth : Nat) : Int) + 1 := by
  unfold turn
  rw [if_neg hclose]
  split <;> omega

theorem turn_close (depth : Nat) : turn (depth + 1) ')' = depth := by
  unfold turn
  rw [if_neg (by decide), if_pos rfl, Int.add_sub_cancel]

/-- The result of a search with `depth` groups open inside: where the group is
closed, and no negative value on the way. -/
structure Finds (depth offset : Nat) (text : List Char)
    (result : List Int × Option Nat) : Prop where
  stops : result.2
    = (closeGroup depth text).map fun found => offset + (utf8 found.1).length
  nonneg : ∀ value ∈ result.1, 0 ≤ value

/-- A turn that does not stop the loop. -/
theorem Finds.cons {depth next offset : Nat} {c : Char} {rest : List Char}
    (hturn : turn (depth + 1) c = (next : Int) + 1)
    (hgroup : closeGroup depth (c :: rest)
      = (closeGroup next rest).map fun found => (c :: found.1, found.2))
    (h : Finds next (offset + c.utf8Size) rest
      (search (next + 1) (offset + c.utf8Size) rest)) :
    Finds depth offset (c :: rest) (search (depth + 1) offset (c :: rest)) := by
  have hzero : ¬ (c = ')' ∧ (next : Int) + 1 = 0) := by omega
  rw [search, hturn]
  dsimp only
  rw [if_neg hzero]
  constructor
  · show (search (next + 1) (offset + c.utf8Size) rest).2 = _
    rw [h.stops, hgroup, Option.map_map]
    refine Option.map_congr fun found _ => ?_
    show _ = offset + (utf8 (c :: found.1)).length
    rw [utf8_cons, List.length_append, String.length_utf8EncodeChar, Nat.add_assoc]
  · intro value hvalue
    rcases List.mem_cons.1 hvalue with rfl | hvalue
    · omega
    · exact h.nonneg value hvalue

theorem search_finds (depth offset : Nat) (text : List Char) :
    Finds depth offset text (search (depth + 1) offset text) := by
  fun_induction closeGroup depth text generalizing offset with
  | case1 depth => constructor <;> simp [search, closeGroup]
  | case2 rest =>
      rw [search, turn_close]
      constructor <;> simp [closeGroup]
  | case3 rest depth ih =>
      exact .cons (turn_close (depth + 1)) (by rw [closeGroup]) (ih _)
  | case4 depth c rest hclose ih =>
      refine .cons (turn_succ depth hclose) ?_ (ih _)
      rw [closeGroup]
      exact hclose

/-- From an opening parenthesis on, the loop finds what closes the group. -/
theorem search_open (rest : List Char) :
    (∀ value ∈ (search 0 0 ('(' :: rest)).1, 0 ≤ value)
      ∧ (search 0 0 ('(' :: rest)).2
        = (closeGroup 0 rest).map fun found => 1 + (utf8 found.1).length := by
  have hrest := search_finds 0 1 rest
  -- the first turn reads the parenthesis itself
  have hfirst : search 0 0 ('(' :: rest)
      = (1 :: (search ((0 : Nat) + 1) 1 rest).1,
        (search ((0 : Nat) + 1) 1 rest).2) := rfl
  rw [hfirst]
  constructor
  · intro value hvalue
    rcases List.mem_cons.1 hvalue with rfl | hvalue
    · decide
    · exact hrest.nonneg value hvalue
  · exact hrest.stops

-- ================================================== groups at an offset

/-- The group whose opening parenthesis stands at an offset: what it holds,
and the offset behind it. -/
def groupAt (text : List Char) (start : Nat) : Option (List Char × Nat) :=
  (closeGroup 0 (fromOffset (start + 1) text)).map fun found =>
    (found.1, start + (utf8 found.1).length + 2)

/-- The text from `start` to `stop` is a group that holds `inner`, and the
parentheses of `inner` pair up. -/
structure Closes (text : List Char) (start : Nat) (inner : List Char)
    (stop : Nat) : Prop where
  within : stop ≤ (utf8 text).length
  written : (utf8 text).extract start stop = utf8 ('(' :: (inner ++ [')']))
  paired : Paired inner

theorem groupAt_append (before rest : List Char) :
    groupAt (before ++ '(' :: rest) (utf8 before).length
      = (closeGroup 0 rest).map fun found =>
        (found.1, (utf8 before).length + (utf8 found.1).length + 2) := by
  have hrest : fromOffset ((utf8 before).length + 1) (before ++ '(' :: rest)
      = rest := by
    have hcut := fromOffset_append (before ++ ['(']) rest
    rw [utf8_append, List.length_append, List.append_assoc] at hcut
    exact hcut
  rw [groupAt, hrest]

theorem length_group (inner : List Char) :
    (utf8 ('(' :: (inner ++ [')']))).length = (utf8 inner).length + 2 := by
  rw [utf8_cons, utf8_append, List.length_append, List.length_append]
  show 1 + ((utf8 inner).length + 1) = _
  omega

theorem closes_append_iff {before rest inner : List Char} {stop : Nat} :
    Closes (before ++ '(' :: rest) (utf8 before).length inner stop
      ↔ stop = (utf8 before).length + (utf8 inner).length + 2
        ∧ ∃ after, rest = inner ++ ')' :: after ∧ Paired inner := by
  have hlen := length_group inner
  have hdrop : (utf8 (before ++ '(' :: rest)).drop (utf8 before).length
      = utf8 ('(' :: rest) := by
    rw [utf8_append, List.drop_left]
  constructor
  · rintro ⟨hwithin, hwritten, hpaired⟩
    rw [List.extract_eq_take_drop, hdrop] at hwritten
    have hfront : '(' :: (inner ++ [')']) <+: '(' :: rest :=
      prefix_of_utf8_prefix (hwritten ▸ List.take_prefix _ _)
    obtain ⟨after, hafter⟩ := (List.prefix_cons_inj _).1 hfront
    refine ⟨?_, after, by rw [← hafter, List.append_assoc]; rfl, hpaired⟩
    have htake := congrArg List.length hwritten
    rw [utf8_append, List.length_append] at hwithin
    rw [List.length_take, hlen] at htake
    omega
  · rintro ⟨rfl, after, rfl, hpaired⟩
    have hsplit : utf8 ('(' :: (inner ++ ')' :: after))
        = utf8 ('(' :: (inner ++ [')'])) ++ utf8 after := by
      rw [← utf8_append]
      simp
    refine ⟨?_, ?_, hpaired⟩
    · rw [utf8_append, hsplit, List.length_append, List.length_append, hlen]
      omega
    · rw [List.extract_eq_take_drop, hdrop, hsplit]
      refine List.take_left' ?_
      rw [hlen]
      omega

/-- Where a parenthesis opens, the group found is the group there is. -/
theorem groupAt_eq_some_iff {before rest inner : List Char} {stop : Nat} :
    groupAt (before ++ '(' :: rest) (utf8 before).length = some (inner, stop)
      ↔ Closes (before ++ '(' :: rest) (utf8 before).length inner stop := by
  rw [groupAt_append, closes_append_iff, Option.map_eq_some_iff]
  simp only [Prod.exists, Prod.mk.injEq, closeGroup_eq_some_iff]
  constructor
  · rintro ⟨i, after, hgroup, rfl, rfl⟩
    exact ⟨rfl, after, hgroup⟩
  · rintro ⟨rfl, after, hgroup⟩
    exact ⟨inner, after, hgroup, rfl, rfl⟩

/-- No group is found where every beginning opens more than it closes. -/
theorem groupAt_eq_none_iff {before rest : List Char} :
    groupAt (before ++ '(' :: rest) (utf8 before).length = none
      ↔ ∀ p, p ≠ [] → p <+: '(' :: rest → p.count ')' < p.count '(' := by
  rw [groupAt_append, Option.map_eq_none_iff, closeGroup_eq_none_iff]
  constructor
  · intro h p hne hp
    obtain ⟨q, rfl, hq⟩ := (List.prefix_cons_iff.1 hp).resolve_left hne
    have hcount := h q hq
    rw [List.count_cons_self, List.count_cons_of_ne (by decide)]
    omega
  · intro h q hq
    have hcount := h ('(' :: q) (List.cons_ne_nil _ _)
      (List.cons_prefix_cons.2 ⟨rfl, hq⟩)
    rw [List.count_cons_self, List.count_cons_of_ne (by decide)] at hcount
    omega

/-- The search for the parenthesis that closes a group counts without falling
below zero, and finds it: the one parenthesis with paired ones before it. It
finds none where every beginning opens more than it closes. -/
theorem group_found_by_counting {text : List Char} {start : Nat}
    (hopen : (utf8 text)[start]? = some '('.toUInt8) :
    (∀ value ∈ (search 0 0 (fromOffset start text)).1, 0 ≤ value)
      ∧ (groupAt text start).map Prod.snd
        = (search 0 0 (fromOffset start text)).2.map (start + · + 1)
      ∧ (∀ inner stop,
        groupAt text start = some (inner, stop) ↔ Closes text start inner stop)
      ∧ (∀ inner stop inner' stop', Closes text start inner stop →
        Closes text start inner' stop' → inner' = inner ∧ stop' = stop)
      ∧ (groupAt text start = none ↔ ∀ p, p ≠ [] → p <+: fromOffset start text →
        p.count ')' < p.count '(') := by
  obtain ⟨before, rest, rfl, rfl⟩ := exists_cut_at_ascii (by decide) hopen
  obtain ⟨hnonneg, hstops⟩ := search_open rest
  rw [fromOffset_append]
  refine ⟨hnonneg, ?_, fun inner stop => groupAt_eq_some_iff, ?_,
    groupAt_eq_none_iff⟩
  · rw [hstops, groupAt_append, Option.map_map, Option.map_map]
    refine Option.map_congr fun found _ => ?_
    show (utf8 before).length + (utf8 found.1).length + 2
      = (utf8 before).length + (1 + (utf8 found.1).length) + 1
    omega
  · intro inner stop inner' stop' h h'
    have heq := (groupAt_eq_some_iff.2 h').symm.trans (groupAt_eq_some_iff.2 h)
    exact Prod.mk.inj (Option.some.inj heq)

/-- The `é` takes two bytes, and the first `)` closes the inner group only. -/
theorem nestedGroup_found :
    (utf8 "é(a(b)) c)".toList)[2]? = some '('.toUInt8
      ∧ groupAt "é(a(b)) c)".toList 2 = some ("a(b)".toList, 8)
      ∧ Closes "é(a(b)) c)".toList 2 "a(b)".toList 8 := by
  have hopen : (utf8 "é(a(b)) c)".toList)[2]? = some '('.toUInt8 := by decide
  have hgroup : groupAt "é(a(b)) c)".toList 2 = some ("a(b)".toList, 8) := by decide
  exact ⟨hopen, hgroup, ((group_found_by_counting hopen).2.2.1 _ _).1 hgroup⟩

end ContractDocs.Grouping
