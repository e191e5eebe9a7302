/-
Groups and lists keep their shape when their entries are written anew.

# Groups

`closeGroup` looks at parentheses only. A text closes the group around it
exactly where it stands when its own parentheses are `enclosed`, and two
texts with the same parentheses are enclosed alike
(`enclosed_eq_of_filter_eq`).

# Lists

`pieces` cuts a text at the commas of depth zero. What it returns is a
`Cut`: no piece has such a comma itself, and every piece but the last ends
at the depth it began with. Any `Cut` is recovered from its pieces joined by
a comma, with or without blanks behind it (`splitTopLevelChars_intercalate`),
up to the blanks of the pieces. Blanks do not count for the depth, so the
entries of a list may be spelled differently, or left out, and still be a
`Cut`. So splitting a list into its entries and joining entries to a list are
inverse to each other (`split_inverts_join`); only the last entry may leave
brackets open, or close more than it opens.
-/
import ContractDocs.Proofs.Text.Tokens
import ContractDocs.Signature.Grouping
import Mathlib.Data.List.Forall2

namespace ContractDocs.Grouping

open Text

-- ====================================================== closed groups

/-- A text whose parentheses, with `depth` groups open before it, close
these and nothing more. -/
def enclosed (depth : Nat) : List Char → Bool
  | [] => depth = 0
  | c :: rest =>
    if c = '(' then enclosed (depth + 1) rest
    else if c = ')' then 0 < depth && enclosed (depth - 1) rest
    else enclosed depth rest

/-- The two parentheses. -/
def isParen (c : Char) : Bool :=
  c = '(' || c = ')'

theorem enclosed_filter_isParen (x : List Char) :
    ∀ depth, enclosed depth (x.filter isParen) = enclosed depth x := by
  induction x with
  | nil => intro depth; rfl
  | cons c x ih =>
      intro depth
      by_cases hopen : c = '('
      · subst hopen
        rw [List.filter_cons_of_pos rfl, enclosed, enclosed, if_pos rfl,
          if_pos rfl, ih]
      by_cases hclose : c = ')'
      · subst hclose
        rw [List.filter_cons_of_pos rfl, enclosed, enclosed, if_neg hopen,
          if_neg hopen, if_pos rfl, if_pos rfl, ih]
      · rw [List.filter_cons_of_neg (by simp [isParen, hopen, hclose]),
          enclosed, if_neg hopen, if_neg hclose, ih]

theorem enclosed_eq_of_filter_eq {x y : List Char}
    (h : x.filter isParen = y.filter isParen) (depth : Nat) :
    enclosed depth x = enclosed depth y := by
  rw [← enclosed_filter_isParen x, h, enclosed_filter_isParen]

/-- What stands inside a closed group is enclosed. -/
theorem enclosed_of_closeGroup {depth : Nat} {text inner after : List Char}
    (h : closeGroup depth text = some (inner, after)) :
    enclosed depth inner = true := by
  fun_induction closeGroup depth text generalizing inner after with
  | case1 => cases h
  | case2 rest =>
      cases h
      rfl
  | case3 rest depth ih =>
      obtain ⟨⟨i, a⟩, hclose, heq⟩ := Option.map_eq_some_iff.1 h
      cases heq
      rw [enclosed, if_neg (by decide), if_pos rfl, Nat.succ_sub_one, ih hclose]
      simp
  | case4 depth c rest hc ih =>
      obtain ⟨⟨i, a⟩, hclose, heq⟩ := Option.map_eq_some_iff.1 h
      cases heq
      have hi := ih hclose
      rw [enclosed]
      by_cases hopen : c = '('
      · rw [if_pos hopen] at hi ⊢
        exact hi
      · rw [if_neg hopen] at hi ⊢
        rw [if_neg fun hcl => hc hcl]
        exact hi

/-- An enclosed text closes the group around it where it ends. -/
theorem closeGroup_of_enclosed (x after : List Char) :
    ∀ depth, enclosed depth x = true →
      closeGroup depth (x ++ ')' :: after) = some (x, after) := by
  induction x with
  | nil =>
      intro depth h
      have hd : depth = 0 := by simpa [enclosed] using h
      subst hd
      rfl
  | cons c x ih =>
      intro depth h
      rw [enclosed] at h
      by_cases hclose : c = ')'
      · subst hclose
        rw [if_neg (by decide), if_pos rfl, Bool.and_eq_true,
          decide_eq_true_eq] at h
        cases depth with
        | zero => exact absurd h.1 (Nat.lt_irrefl 0)
        | succ depth =>
            rw [List.cons_append, closeGroup, ih depth h.2]
            rfl
      · rw [if_neg hclose] at h
        have hx : enclosed (if c = '(' then depth + 1 else depth) x = true := by
          split
          · next hopen => rwa [if_pos hopen] at h
          · next hopen => rwa [if_neg hopen] at h
        rw [List.cons_append, closeGroup, ih _ hx]
        · rfl
        · exact fun hc => hclose hc

-- ==================================================== depth and commas

/-- How much deeper the text ends than it begins. -/
def net : List Char → Int
  | [] => 0
  | c :: rest => depthStep c + net rest

/-- No comma of the text stands at depth zero, when the text begins at
`depth`. -/
def uncut (depth : Int) : List Char → Bool
  | [] => true
  | c :: rest => !(c = ',' && depth = 0) && uncut (depth + depthStep c) rest

/-- Commas and brackets: the characters that count for a cut. -/
def isMark (c : Char) : Bool :=
  c = ',' || depthStep c ≠ 0

@[simp] theorem net_nil : net [] = 0 := rfl

@[simp] theorem net_cons (c : Char) (x : List Char) :
    net (c :: x) = depthStep c + net x := rfl

@[simp] theorem net_append (x y : List Char) : net (x ++ y) = net x + net y := by
  induction x with
  | nil => rw [List.nil_append, net_nil, Int.zero_add]
  | cons c x ih => rw [List.cons_append, net_cons, net_cons, ih, Int.add_assoc]

theorem uncut_append (x y : List Char) :
    ∀ depth, uncut depth (x ++ y) = (uncut depth x && uncut (depth + net x) y) := by
  induction x with
  | nil => intro depth; simp [uncut]
  | cons c x ih =>
      intro depth
      rw [List.cons_append, uncut, uncut, ih, net_cons, Bool.and_assoc,
        Int.add_assoc]

/-- Brackets and commas are no blanks. -/
theorem isBlank_of_isMark {c : Char} (h : isMark c = true) :
    isBlank c = false := by
  simp only [isMark, depthStep, Bool.or_eq_true, decide_eq_true_eq] at h
  rcases h with rfl | h
  · decide
  · split at h
    · next hc => rcases hc with (rfl | rfl) | rfl <;> decide
    · split at h
      · next hc => rcases hc with (rfl | rfl) | rfl <;> decide
      · exact absurd rfl h

theorem net_filter_isMark (x : List Char) : net (x.filter isMark) = net x := by
  induction x with
  | nil => rfl
  | cons c x ih =>
      cases hc : isMark c with
      | true => rw [List.filter_cons_of_pos hc, net_cons, net_cons, ih]
      | false =>
          have hstep : depthStep c = 0 := by
            simp only [isMark, Bool.or_eq_false_iff, decide_eq_false_iff_not,
              not_not] at hc
            exact hc.2
          rw [List.filter_cons_of_neg (by simp [hc]), ih, net_cons, hstep,
            Int.zero_add]

theorem uncut_filter_isMark (x : List Char) :
    ∀ depth, uncut depth (x.filter isMark) = uncut depth x := by
  induction x with
  | nil => intro depth; rfl
  | cons c x ih =>
      intro depth
      cases hc : isMark c with
      | true => rw [List.filter_cons_of_pos hc, uncut, uncut, ih]
      | false =>
          simp only [isMark, Bool.or_eq_false_iff, decide_eq_false_iff_not,
            not_not] at hc
          rw [List.filter_cons_of_neg (by simp [isMark, hc]), ih, uncut, hc.2,
            Int.add_zero]
          simp [hc.1]

/-- Respelled, a text ends at the same depth. -/
theorem net_eq_of_tokens_eq {x y : List Char} (h : tokens x = tokens y) :
    net x = net y := by
  rw [← net_filter_isMark x, ← net_filter_isMark y,
    filter_eq_of_tokens_eq h fun _ => isBlank_of_isMark]

/-- Respelled, a text has its commas at the same depths. -/
theorem uncut_eq_of_tokens_eq {x y : List Char} (h : tokens x = tokens y)
    (depth : Int) : uncut depth x = uncut depth y := by
  rw [← uncut_filter_isMark x, ← uncut_filter_isMark y,
    filter_eq_of_tokens_eq h fun _ => isBlank_of_isMark]

-- ======================================================= cutting a list

/-- Pieces that a list can be cut into: no piece has a comma at depth zero,
and every piece but the last ends where it began. -/
structure Cut (ps : List (List Char)) : Prop where
  uncut : ∀ p ∈ ps, uncut 0 p = true
  closed : ∀ p ∈ ps.dropLast, net p = 0

theorem Cut.cons {p : List Char} {ps : List (List Char)}
    (hp : Grouping.uncut 0 p = true) (hnet : net p = 0) (hps : Cut ps) :
    Cut (p :: ps) := by
  constructor
  · intro q hq
    rcases List.mem_cons.1 hq with rfl | hq
    · exact hp
    · exact hps.uncut q hq
  · intro q hq
    cases ps with
    | nil => cases hq
    | cons r rs =>
        rw [List.dropLast_cons_cons] at hq
        rcases List.mem_cons.1 hq with rfl | hq
        · exact hnet
        · exact hps.closed q hq

/-- The pieces behind the first one. -/
theorem Cut.tail {p : List Char} {ps : List (List Char)} (h : Cut (p :: ps)) :
    Cut ps := by
  refine ⟨fun q hq => h.uncut q (List.mem_cons_of_mem _ hq), fun q hq => ?_⟩
  cases ps with
  | nil => cases hq
  | cons r rs => exact h.closed q (List.mem_cons_of_mem _ hq)

/-- Leaving pieces out leaves a cut. -/
theorem Cut.filter {ps : List (List Char)} (keep : List Char → Bool)
    (h : Cut ps) : Cut (ps.filter keep) := by
  induction ps with
  | nil => exact h
  | cons p ps ih =>
      have hp := h.uncut p (List.mem_cons_self ..)
      have hps := ih h.tail
      cases hk : keep p with
      | false => rwa [List.filter_cons_of_neg (by simp [hk])]
      | true =>
          rw [List.filter_cons_of_pos hk]
          cases ps with
          | nil =>
              rw [List.filter_nil]
              exact ⟨fun q hq => by rwa [List.mem_singleton.1 hq],
                fun q hq => by cases hq⟩
          | cons r rs =>
              exact .cons hp (h.closed p (List.mem_cons_self ..)) hps

/-- Respelling the pieces leaves a cut. -/
theorem Cut.respelled {ps qs : List (List Char)}
    (hpq : List.Forall₂ (fun p q => tokens q = tokens p) ps qs) (h : Cut ps) :
    Cut qs := by
  induction hpq with
  | nil => exact h
  | @cons p q ps qs htokens hrest ih =>
      have hq : Grouping.uncut 0 q = true := by
        rw [uncut_eq_of_tokens_eq htokens]
        exact h.uncut p (List.mem_cons_self ..)
      cases hrest with
      | nil =>
          exact ⟨fun r hr => by rwa [List.mem_singleton.1 hr],
            fun r hr => by cases hr⟩
      | cons _ _ =>
          refine .cons hq ?_ (ih h.tail)
          rw [net_eq_of_tokens_eq htokens]
          exact h.closed p (List.mem_cons_self ..)

/-- The pieces of a text are a cut, whatever was read of the first one. -/
theorem cut_pieces (text : List Char) :
    ∀ piece depth, uncut 0 piece.reverse = true → net piece.reverse = depth →
      Cut (pieces depth piece text) := by
  induction text with
  | nil =>
      intro piece depth hun hnet
      exact ⟨fun q hq => by rwa [List.mem_singleton.1 hq], fun q hq => by cases hq⟩
  | cons c rest ih =>
      intro piece depth hun hnet
      rw [pieces]
      split
      · next hcomma =>
          rw [Bool.and_eq_true, decide_eq_true_eq, decide_eq_true_eq] at hcomma
          rw [hcomma.2] at hnet ⊢
          exact .cons hun hnet (ih [] 0 rfl rfl)
      · next hcomma =>
          refine ih (c :: piece) _ ?_ ?_
          · rw [List.reverse_cons, uncut_append, hun, hnet, Bool.true_and,
              Int.zero_add, uncut, Bool.eq_false_iff.2 hcomma]
            rfl
          · rw [List.reverse_cons, net_append, hnet, net_cons, net_nil,
              Int.add_zero]

theorem pieces_ne_nil (text : List Char) :
    ∀ depth piece, pieces depth piece text ≠ [] := by
  induction text with
  | nil => intro depth piece; exact List.cons_ne_nil _ _
  | cons c rest ih =>
      intro depth piece
      rw [pieces]
      split
      · exact List.cons_ne_nil _ _
      · exact ih _ _

/-- Joined by commas, the pieces are the text. -/
theorem intercalate_pieces (text : List Char) :
    ∀ depth piece, [','].intercalate (pieces depth piece text)
      = piece.reverse ++ text := by
  induction text with
  | nil => intro depth piece; simp [pieces]
  | cons c rest ih =>
      intro depth piece
      rw [pieces]
      split
      · next hcomma =>
          rw [Bool.and_eq_true, decide_eq_true_eq] at hcomma
          rw [List.intercalate_cons_of_ne_nil (pieces_ne_nil rest _ _), ih,
            hcomma.1]
          simp
      · rw [ih, List.reverse_cons, List.append_assoc]
        rfl

/-- A text without a comma at depth zero is one piece. -/
theorem pieces_of_uncut (x : List Char) :
    ∀ depth piece, uncut depth x = true →
      pieces depth piece x = [piece.reverse ++ x] := by
  induction x with
  | nil => intro depth piece _; simp [pieces]
  | cons c x ih =>
      intro depth piece h
      rw [uncut, Bool.and_eq_true, Bool.not_eq_true'] at h
      rw [pieces, h.1, if_neg (by simp), ih _ _ h.2, List.reverse_cons,
        List.append_assoc]
      rfl

/-- The first comma at depth zero ends the first piece. -/
theorem pieces_append_comma (x rest : List Char) :
    ∀ depth piece, uncut depth x = true → depth + net x = 0 →
      pieces depth piece (x ++ ',' :: rest)
        = (piece.reverse ++ x) :: pieces 0 [] rest := by
  induction x with
  | nil =>
      intro depth piece _ hnet
      rw [net_nil, Int.add_zero] at hnet
      subst hnet
      rw [List.nil_append, pieces, if_pos (by simp), List.append_nil]
  | cons c x ih =>
      intro depth piece h hnet
      rw [uncut, Bool.and_eq_true, Bool.not_eq_true'] at h
      rw [net_cons, ← Int.add_assoc] at hnet
      rw [List.cons_append, pieces, h.1, if_neg (by simp), ih _ _ h.2 hnet,
        List.reverse_cons, List.append_assoc]
      rfl

/-- A blank in front of a list belongs to its first piece, where collapsing
drops it. -/
theorem map_collapse_pieces_blank {b : Char} (hb : isBlank b = true)
    (text : List Char) :
    (pieces 0 [] (b :: text)).map collapse
      = (pieces 0 [] text).map collapse := by
  have key : ∀ (text : List Char) (depth : Int) (piece : List Char),
      (pieces depth (piece ++ [b]) text).map collapse
        = (pieces depth piece text).map collapse := by
    intro text
    induction text with
    | nil =>
        intro depth piece
        rw [pieces, pieces, List.reverse_append, List.map_singleton,
          List.map_singleton]
        exact congrArg (fun x => [x]) (collapse_cons_blank hb _)
    | cons c rest ih =>
        intro depth piece
        rw [pieces, pieces]
        split
        · rw [List.map_cons, List.map_cons, List.reverse_append]
          exact congrArg (fun x => x :: _) (collapse_cons_blank hb _)
        · exact ih _ (c :: piece)
  have hmark : isMark b = false := by
    by_contra h
    rw [Bool.not_eq_false] at h
    rw [isBlank_of_isMark h] at hb
    cases hb
  simp only [isMark, Bool.or_eq_false_iff, decide_eq_false_iff_not, not_not] at hmark
  rw [pieces, if_neg (by simp [hmark.1]), hmark.2]
  exact key text 0 []

theorem map_collapse_pieces_blanks {gap : List Char}
    (hgap : isBlankText gap = true) (text : List Char) :
    (pieces 0 [] (gap ++ text)).map collapse
      = (pieces 0 [] text).map collapse := by
  induction gap with
  | nil => rfl
  | cons b gap ih =>
      rw [isBlankText, List.all_cons, Bool.and_eq_true] at hgap
      rw [List.cons_append, map_collapse_pieces_blank hgap.1]
      exact ih hgap.2

/-- A cut is recovered from its pieces joined by a comma and any blanks, with
the blanks of the pieces collapsed. -/
theorem splitTopLevelChars_intercalate {gap : List Char}
    (hgap : isBlankText gap = true) {ps : List (List Char)} (h : Cut ps) :
    splitTopLevelChars ((',' :: gap).intercalate ps)
      = (ps.map collapse).filter (!·.isEmpty) := by
  unfold splitTopLevelChars
  cases ps with
  | nil => rfl
  | cons p ps =>
      congr 1
      induction ps generalizing p with
      | nil =>
          rw [List.intercalate_singleton,
            pieces_of_uncut p 0 [] (h.uncut p (List.mem_cons_self ..))]
          rfl
      | cons q qs ih =>
          have hp := h.uncut p (List.mem_cons_self ..)
          have hnet : (0 : Int) + net p = 0 := by
            rw [Int.zero_add]
            exact h.closed p (List.mem_cons_self ..)
          rw [List.intercalate_cons_cons, List.append_assoc, List.cons_append,
            pieces_append_comma p _ 0 [] hp hnet, List.map_cons,
            map_collapse_pieces_blanks hgap, ih q h.tail]
          rfl

/-- Where no piece is blank, a cut is recovered piece by piece. -/
theorem splitTopLevelChars_intercalate_of_ne {gap : List Char}
    (hgap : isBlankText gap = true) {ps : List (List Char)} (h : Cut ps)
    (hne : ∀ p ∈ ps, tokens p ≠ []) :
    splitTopLevelChars ((',' :: gap).intercalate ps) = ps.map collapse := by
  rw [splitTopLevelChars_intercalate hgap h]
  refine List.filter_eq_self.2 fun x hx => ?_
  obtain ⟨p, hp, rfl⟩ := List.mem_map.1 hx
  have hp := hne p hp
  rw [ne_eq, ← collapse_eq_nil_iff] at hp
  simpa using hp

/-- The entries of a list are a cut. -/
theorem cut_splitTopLevelChars (s : List Char) : Cut (splitTopLevelChars s) := by
  refine Cut.filter _ (Cut.respelled ?_ (cut_pieces s [] 0 rfl rfl))
  rw [List.forall₂_map_right_iff, List.forall₂_same]
  exact fun p _ => tokens_collapse p

/-- An entry of a list is collapsed, and not empty. -/
theorem mem_splitTopLevelChars {s e : List Char}
    (he : e ∈ splitTopLevelChars s) :
    collapse e = e ∧ OnlySpaces e ∧ tokens e ≠ [] := by
  obtain ⟨hmem, hne⟩ := List.mem_filter.1 he
  obtain ⟨p, -, rfl⟩ := List.mem_map.1 hmem
  refine ⟨collapse_collapse p, onlySpaces_collapse p, ?_⟩
  rw [tokens_collapse, ne_eq, ← collapse_eq_nil_iff]
  simpa using hne

/-- A text that is its own only entry. -/
theorem entry_of_splitTopLevel {text : String} (h : splitTopLevel text = [text]) :
    uncut 0 text.toList = true ∧ collapse text.toList = text.toList
      ∧ tokens text.toList ≠ [] := by
  have hmem : text.toList ∈ splitTopLevelChars text.toList := by
    obtain ⟨e, he, hofList⟩ := List.map_eq_singleton_iff.1 h
    rw [he, ← hofList, String.toList_ofList]
    exact List.mem_singleton_self e
  obtain ⟨hcollapse, -, hne⟩ := mem_splitTopLevelChars hmem
  exact ⟨(cut_splitTopLevelChars text.toList).uncut _ hmem, hcollapse, hne⟩

-- ================================================ splitting and joining

/-- No comma at depth zero: before every comma the brackets do not even
out. -/
theorem uncut_iff_net {x : List Char} :
    ∀ {depth : Int}, uncut depth x = true
      ↔ ∀ before after, x = before ++ ',' :: after → depth + net before ≠ 0 := by
  induction x with
  | nil => simp [uncut]
  | cons c x ih =>
      intro depth
      rw [uncut, Bool.and_eq_true, Bool.not_eq_true', ih]
      constructor
      · intro ⟨hhere, hlater⟩ before after heq
        cases before with
        | nil =>
            cases heq
            simpa using hhere
        | cons d before =>
            cases heq
            rw [net_cons, ← Int.add_assoc]
            exact hlater before after rfl
      · intro h
        refine ⟨?_, fun before after heq => ?_⟩
        · by_cases hc : c = ','
          · have hdepth := h [] x (by rw [hc]; rfl)
            simpa [hc] using hdepth
          · simp [hc]
        · have hdepth := h (c :: before) after (by rw [heq]; rfl)
          rwa [net_cons, ← Int.add_assoc] at hdepth

/-- A text that a list holds as it is: collapsed and not empty, with its
brackets evened out at the end and at none of its commas. -/
structure IsEntry (entry : String) : Prop where
  ne_nil : entry.toList ≠ []
  collapsed : collapse entry.toList = entry.toList
  closed : net entry.toList = 0
  commas : ∀ before after, entry.toList = before ++ ',' :: after → net before ≠ 0

theorem isEntry_iff_uncut {entry : String} :
    IsEntry entry ↔ entry.toList ≠ [] ∧ collapse entry.toList = entry.toList
      ∧ net entry.toList = 0 ∧ uncut 0 entry.toList = true := by
  have hcommas : uncut 0 entry.toList = true ↔ ∀ before after,
      entry.toList = before ++ ',' :: after → net before ≠ 0 := by
    simp only [uncut_iff_net, Int.zero_add]
  rw [hcommas]
  exact ⟨fun h => ⟨h.ne_nil, h.collapsed, h.closed, h.commas⟩,
    fun ⟨hne, hcollapsed, hclosed, hcommas⟩ => ⟨hne, hcollapsed, hclosed, hcommas⟩⟩

instance (entry : String) : Decidable (IsEntry entry) :=
  decidable_of_iff _ isEntry_iff_uncut.symm

/-- Collapsed entries that a list can be cut into are recovered from it,
whatever blanks follow its commas. -/
theorem splitTopLevel_intercalate {sep : String} {gap : List Char}
    (hsep : sep.toList = ',' :: gap) (hgap : isBlankText gap = true)
    {entries : List String} (hcut : Cut (entries.map String.toList))
    (h : ∀ e ∈ entries, e.toList ≠ [] ∧ collapse e.toList = e.toList) :
    splitTopLevel (sep.intercalate entries) = entries := by
  have hne : ∀ p ∈ entries.map String.toList, tokens p ≠ [] := by
    intro p hp
    obtain ⟨e, he, rfl⟩ := List.mem_map.1 hp
    obtain ⟨hne, hcollapsed⟩ := h e he
    rwa [ne_eq, ← collapse_eq_nil_iff, hcollapsed]
  rw [splitTopLevel, String.toList_intercalate, hsep,
    splitTopLevelChars_intercalate_of_ne hgap hcut hne, List.map_map, List.map_map]
  conv_rhs => rw [← List.map_id entries]
  refine List.map_congr_left fun e he => ?_
  rw [Function.comp_apply, Function.comp_apply, (h e he).2, String.ofList_toList]
  rfl

/-- The entries of a list are found again when they are joined. -/
theorem splitTopLevel_join_split (list : String) :
    splitTopLevel (", ".intercalate (splitTopLevel list)) = splitTopLevel list := by
  have hchars : (splitTopLevel list).map String.toList
      = splitTopLevelChars list.toList := by
    rw [splitTopLevel, List.map_map]
    exact List.map_id'' (fun e => String.toList_ofList) _
  have hcut : Cut ((splitTopLevel list).map String.toList) :=
    hchars ▸ cut_splitTopLevelChars list.toList
  have hsep : ", ".toList = [',', ' '] := rfl
  refine splitTopLevel_intercalate hsep rfl hcut fun e he => ?_
  obtain ⟨hcollapsed, -, htokens⟩ :=
    mem_splitTopLevelChars (hchars ▸ List.mem_map_of_mem he)
  refine ⟨fun hnil => htokens ?_, hcollapsed⟩
  rw [hnil]
  rfl

/-- Entries joined by a comma, with or without a space, are what the list is
split into; and the entries of any list, its brackets matched or not, are
found again when they are joined. -/
theorem split_inverts_join :
    (∀ entries : List String, (∀ e ∈ entries, IsEntry e) →
        splitTopLevel (",".intercalate entries) = entries
          ∧ splitTopLevel (", ".intercalate entries) = entries)
      ∧ ∀ list : String,
        splitTopLevel (", ".intercalate (splitTopLevel list)) = splitTopLevel list := by
  refine ⟨fun entries h => ?_, splitTopLevel_join_split⟩
  have hcut : Cut (entries.map String.toList) := by
    constructor
    · intro p hp
      obtain ⟨e, he, rfl⟩ := List.mem_map.1 hp
      exact (isEntry_iff_uncut.1 (h e he)).2.2.2
    · intro p hp
      obtain ⟨e, he, rfl⟩ := List.mem_map.1 (List.dropLast_subset _ hp)
      exact (h e he).closed
  have hentries := fun e he => And.intro (h e he).ne_nil (h e he).collapsed
  have hcomma : ",".toList = [','] := rfl
  have hspace : ", ".toList = [',', ' '] := rfl
  exact ⟨splitTopLevel_intercalate hcomma rfl hcut hentries,
    splitTopLevel_intercalate hspace rfl hcut hentries⟩

/-- Brackets that close before they open keep a comma between them. -/
theorem crossedEntries_split :
    (∀ e ∈ ["f(a, b)", ") , (", "[1,2] x"], IsEntry e)
      ∧ splitTopLevel "f(a, b),) , (,[1,2] x" = ["f(a, b)", ") , (", "[1,2] x"]
      ∧ splitTopLevel "f(a, b), ) , (, [1,2] x" = ["f(a, b)", ") , (", "[1,2] x"] := by
  have hentries : ∀ e ∈ ["f(a, b)", ") , (", "[1,2] x"], IsEntry e := by decide +kernel
  obtain ⟨hcomma, hspace⟩ := split_inverts_join.1 _ hentries
  exact ⟨hentries, hcomma, hspace⟩

-- ======================================================= parentheses

theorem isBlank_of_isParen {c : Char} (h : isParen c = true) :
    isBlank c = false := by
  simp only [isParen, Bool.or_eq_true, decide_eq_true_eq] at h
  rcases h with rfl | rfl <;> decide

/-- A separator without parentheses adds none. -/
theorem filter_isParen_intercalate (sep : List Char)
    (hsep : sep.filter isParen = []) (ps : List (List Char)) :
    (sep.intercalate ps).filter isParen = ps.flatMap (·.filter isParen) := by
  induction ps with
  | nil => rfl
  | cons p ps ih =>
      cases ps with
      | nil => simp
      | cons q qs =>
          rw [List.intercalate_cons_cons, List.filter_append,
            List.filter_append, ih, hsep, List.append_nil]
          rfl

/-- The parentheses of a list are those of its entries: an entry that is
left out is blank. -/
theorem filter_isParen_splitTopLevelChars (s : List Char) :
    (splitTopLevelChars s).flatMap (·.filter isParen) = s.filter isParen := by
  have hentries : ∀ ps : List (List Char),
      ((ps.map collapse).filter (!·.isEmpty)).flatMap (·.filter isParen)
        = ps.flatMap (·.filter isParen) := by
    intro ps
    induction ps with
    | nil => rfl
    | cons p ps ih =>
        have hp : (collapse p).filter isParen = p.filter isParen :=
          filter_eq_of_tokens_eq (tokens_collapse p) fun _ => isBlank_of_isParen
        rw [List.flatMap_cons, List.map_cons, ← ih, ← hp]
        cases hc : collapse p with
        | nil => rfl
        | cons c x =>
            have hkeep : (!(c :: x).isEmpty) = true := rfl
            rw [List.filter_cons_of_pos (a := c :: x) hkeep, List.flatMap_cons]
  rw [splitTopLevelChars, hentries,
    ← filter_isParen_intercalate [','] rfl, intercalate_pieces]
  rfl

/-- A list of blanks has no entries. -/
theorem splitTopLevelChars_of_blank {s : List Char} (h : isBlankText s = true) :
    splitTopLevelChars s = [] := by
  have htokens : tokens s = [] := tokens_eq_nil_iff.2 h
  have huncut : uncut 0 s = true :=
    uncut_eq_of_tokens_eq (y := []) htokens 0
  rw [splitTopLevelChars, pieces_of_uncut s 0 [] huncut, List.map_singleton,
    List.reverse_nil, List.nil_append, collapse_eq_nil_iff.2 htokens]
  rfl

-- ================================================ lists written anew

/-- A list whose entries are respelled and joined by a comma and a space has
these entries, collapsed, and closes its group where the first one did. -/
theorem splitTopLevelChars_respelled {s : List Char} {rs : List (List Char)}
    (h : List.Forall₂ (fun e r => tokens r = tokens e)
      (splitTopLevelChars s) rs) :
    splitTopLevelChars ([',', ' '].intercalate rs) = rs.map collapse
      ∧ ∀ depth, enclosed depth ([',', ' '].intercalate rs) = enclosed depth s := by
  have hentries : ∀ e ∈ splitTopLevelChars s, tokens e ≠ [] := fun e he =>
    (mem_splitTopLevelChars he).2.2
  have hparens := filter_isParen_splitTopLevelChars s
  have hcut := Cut.respelled h (cut_splitTopLevelChars s)
  generalize splitTopLevelChars s = es at h hentries hparens
  constructor
  · have hspace : isBlankText [' '] = true := rfl
    refine splitTopLevelChars_intercalate_of_ne hspace hcut ?_
    clear hcut hparens
    induction h with
    | nil => intro r hr; cases hr
    | cons htokens _ ih =>
        intro r hr
        rcases List.mem_cons.1 hr with rfl | hr
        · rw [htokens]
          exact hentries _ (List.mem_cons_self ..)
        · exact ih (fun e he => hentries e (List.mem_cons_of_mem _ he)) r hr
  · refine enclosed_eq_of_filter_eq ?_
    rw [filter_isParen_intercalate _ (by decide), ← hparens]
    clear hcut hparens hentries
    induction h with
    | nil => rfl
    | cons htokens _ ih =>
        rw [List.flatMap_cons, List.flatMap_cons, ih,
          filter_eq_of_tokens_eq htokens fun _ => isBlank_of_isParen]

end ContractDocs.Grouping
