/-
What the canonical spelling of a type depends on: the tokens, and the
blanks of those gaps between words that closing passes over.

# Gaps

Gaps are closed from the left, each together with the word characters on
its two sides, and no character belongs to two gaps. So a word of one
character that one gap has taken leaves nothing for the next gap, which
stays as it was written: in `a b  c` the second gap is passed over. Which
gaps are passed over is read off the tokens (`passedOver`); what they hold
is not (`gapBlanks`).

# The woven form

A text is woven from tokens and blanks when the blanks stand one by one
between its words and nowhere else (`Woven`). Tightening leaves the woven
form of the text with the last blank of every gap (`tight_woven`), and
closing exchanges the blanks for spaces where it does not pass over
(`Woven.closeGaps`). Tokens and blanks together fix a woven text, and are
fixed by it, so two texts are spelled alike exactly when they agree on both
(`closeGaps_tight_eq_iff`).

# Rounds

Closing the gaps again does not reach a gap that was passed over: the same
word characters pair up. A loop over the closing (`Settles`) therefore stops
by its second round, and one pass is all the spelling needs.
-/
import ContractDocs.Proofs.Signature.Spelling

namespace ContractDocs.TypeName

open Text

-- ================================================== gaps between words

/-- The last blank of every gap between two words, in order; `afterWord`
says that the last character that is not blank was a word character. -/
def gapBlanks (afterWord : Bool) : List Char → List Char
  | [] => []
  | c :: rest =>
    if isBlank c then
      if afterWord && startsWord rest then c :: gapBlanks false rest
      else gapBlanks afterWord rest
    else gapBlanks (isWord c) rest

/-- For every gap between two words of a token list, whether it is passed
over; `afterWord` says that a word stands before the tokens, and `taken`
that a gap has taken all of it. A gap that is not passed over takes the
first character of the word behind it. -/
def passedOver (afterWord taken : Bool) : List (List Char) → List Bool
  | [] => []
  | t :: ts =>
    if afterWord && startsWord t then
      taken :: passedOver true (!taken && t.length == 1) ts
    else passedOver (startsWord t) false ts

/-- A gap as it is spelled: a space, unless it is passed over. -/
def respell (passed : Bool) (blank : Char) : Char :=
  if passed then blank else ' '

/-- What the canonical spelling has in the gaps between words. -/
def spelledGaps (text : List Char) : List Char :=
  List.zipWith respell (passedOver false false (tokens text)) (gapBlanks false text)

/-- In front of a text without a leading blank the flag does not matter. -/
theorem gapBlanks_flag {x : List Char} (hx : x.head?.any isBlank = false)
    (f g : Bool) : gapBlanks f x = gapBlanks g x := by
  cases x with
  | nil => rfl
  | cons c x =>
      have hc : isBlank c = false := hx
      simp [gapBlanks, hc]

/-- What has been taken matters behind a word only. -/
theorem passedOver_false (taken : Bool) (ts : List (List Char)) :
    passedOver false taken ts = passedOver false false ts := by
  cases ts with
  | nil => rfl
  | cons t ts => rfl

/-- Where no word has only one character, no gap is passed over. -/
theorem passedOver_of_long {ts : List (List Char)}
    (h : ∀ t ∈ ts, startsWord t = true → t.length ≠ 1) :
    ∀ f, passedOver f false ts = List.replicate (passedOver f false ts).length false := by
  induction ts with
  | nil => intro f; rfl
  | cons t ts ih =>
      intro f
      have ih := ih fun u hu => h u (List.mem_cons_of_mem _ hu)
      rw [passedOver]
      split
      · next hgap =>
          rw [Bool.and_eq_true] at hgap
          have hlong : (t.length == 1) = false := by
            simpa using h t (List.mem_cons_self ..) hgap.2
          rw [hlong, Bool.and_false, List.length_cons, List.replicate_succ, ← ih true]
      · exact ih _

-- ========================================================= woven texts

/-- The text is the tokens side by side, with the blanks one by one between
the words; `afterWord` says that a word stands before it. -/
inductive Woven : Bool → List (List Char) → List Char → List Char → Prop
  | nil {f : Bool} : Woven f [] [] []
  | gap {t : List Char} {ts : List (List Char)} {b : Char} {blanks y : List Char}
      (ht : startsWord t = true) (hb : isBlank b = true) (h : Woven true ts blanks y) :
      Woven true (t :: ts) (b :: blanks) (b :: (t ++ y))
  | plain {f : Bool} {t : List Char} {ts : List (List Char)} {blanks y : List Char}
      (hf : (f && startsWord t) = false) (h : Woven (startsWord t) ts blanks y) :
      Woven f (t :: ts) blanks (t ++ y)

namespace Woven

variable {f : Bool} {ts : List (List Char)} {blanks y : List Char}

/-- One blank for every gap. -/
theorem length_eq (h : Woven f ts blanks y) :
    ∀ taken, blanks.length = (passedOver f taken ts).length := by
  induction h with
  | nil => intro taken; rfl
  | gap ht hb h ih =>
      intro taken
      rw [passedOver, ht, Bool.and_self, if_pos rfl, List.length_cons, List.length_cons, ih]
  | plain hf h ih =>
      intro taken
      rw [passedOver, hf, if_neg Bool.false_ne_true]
      exact ih false

/-- Tokens and blanks fix the text. -/
theorem text_unique {y' : List Char} (h : Woven f ts blanks y)
    (h' : Woven f ts blanks y') : y = y' := by
  induction h generalizing y' with
  | nil => cases h'; rfl
  | gap ht hb h ih =>
      cases h' with
      | gap _ _ h' => rw [ih h']
      | plain hf _ => simp [ht] at hf
  | plain hf h ih =>
      cases h' with
      | gap ht _ _ => simp [ht] at hf
      | plain _ h' => rw [ih h']

/-- The blanks of the text are those it is woven with. -/
theorem filter_isBlank (h : Woven f ts blanks y) (hts : ∀ t ∈ ts, IsToken t) :
    y.filter isBlank = blanks := by
  have token : ∀ {t : List Char}, IsToken t → t.filter isBlank = [] := by
    intro t ht
    rw [List.filter_eq_nil_iff]
    intro c hc
    rw [ht.isBlank_of_mem hc]
    exact Bool.false_ne_true
  induction h with
  | nil => rfl
  | gap ht hb h ih =>
      rw [List.filter_cons_of_pos hb, List.filter_append,
        token (hts _ (List.mem_cons_self ..)), List.nil_append,
        ih fun u hu => hts u (List.mem_cons_of_mem _ hu)]
  | plain hf h ih =>
      rw [List.filter_append, token (hts _ (List.mem_cons_self ..)), List.nil_append,
        ih fun u hu => hts u (List.mem_cons_of_mem _ hu)]

end Woven

-- ================================================= tightening weaves

/-- A tight text is woven from its tokens and the last blank of every gap. -/
theorem tight_woven {x : List Char} :
    ∀ {f}, (f && startsWord x) = false →
      Woven f (tokens x) (gapBlanks f x) (tight f x) := by
  induction x with
  | nil => intro f _; exact .nil
  | cons c x ih =>
      intro f hf
      cases hc : isBlank c with
      | true =>
          rw [tokens_cons_blank hc, tight, gapBlanks, hc, if_pos rfl, if_pos rfl]
          by_cases hgap : (f && startsWord x) = true
          · -- the last blank of a gap: the word behind it is the next token
            rw [if_pos hgap, if_pos hgap]
            rw [Bool.and_eq_true] at hgap
            obtain ⟨rfl, hx⟩ := hgap
            obtain ⟨t, ts, hts, ht⟩ := tokens_of_startsWord hx
            have hrest := ih (Bool.false_and (startsWord x))
            rw [hts] at hrest ⊢
            generalize hy : tight false x = y at hrest
            cases hrest with
            | plain _ h =>
                rw [ht] at h
                exact .gap ht hc h
          · rw [if_neg hgap, if_neg hgap]
            exact ih (Bool.eq_false_iff.2 hgap)
      | false =>
          rw [startsWord_cons] at hf
          rw [tight_cons_of_not_blank hc, gapBlanks, hc, if_neg Bool.false_ne_true]
          cases hg : glued [c] x with
          | false =>
              rw [tokens_cons_single hc hg]
              exact .plain hf (ih (glued_singleton c x ▸ hg))
          | true =>
              -- `c` belongs to the first token of `x`, which stands in front
              rw [glued_singleton, Bool.and_eq_true] at hg
              have hhead := head?_any_isBlank_of_startsWord hg.2
              obtain ⟨t, ts, hts, ht⟩ := tokens_of_startsWord hg.2
              have hrest := ih (Bool.false_and (startsWord x))
              rw [tokens_cons_glued hg.1 hg.2, tight_flag hhead _ false,
                gapBlanks_flag hhead _ false, hts, List.modifyHead_cons]
              rw [hts] at hrest
              generalize tight false x = y at hrest
              cases hrest with
              | plain _ h =>
                  rw [ht] at h
                  exact .plain (t := c :: t) hf (by rwa [startsWord_cons, hg.1])

-- ==================================================== closing the gaps

/-- Characters before anything but a gap stay as they are. -/
theorem closeGaps_append {r y : List Char} (hr : ∀ c ∈ r, isBlank c = false)
    (hy : y.head?.any isBlank = false) : closeGaps (r ++ y) = r ++ closeGaps y := by
  induction r with
  | nil => rfl
  | cons c r ih =>
      have hrest : ∀ d ∈ r, isBlank d = false := fun d hd => hr d (List.mem_cons_of_mem _ hd)
      have hhead : (r ++ y).head?.any isBlank = false := by
        cases r with
        | nil => exact hy
        | cons d r => exact hrest d (List.mem_cons_self ..)
      rw [List.cons_append, closeGaps_cons_of_no_gap (by rw [hhead]; simp), ih hrest]
      rfl

/-- Closing the gaps of a woven text, behind what is left of the token
before it. Nothing is left of a word of one character that the gap before
it has taken; then the next gap is passed over. -/
theorem Woven.closeGaps_append {f : Bool} {ts : List (List Char)} {blanks y : List Char}
    (h : Woven f ts blanks y) (hts : ∀ t ∈ ts, IsToken t) :
    ∀ r : List Char, (∀ c ∈ r, isBlank c = false) →
      (f = true → ∀ c ∈ r, isWord c = true) →
      ∃ y', closeGaps (r ++ y) = r ++ y'
        ∧ Woven f ts (List.zipWith respell (passedOver f r.isEmpty ts) blanks) y' := by
  induction h with
  | nil =>
      intro r hr _
      refine ⟨[], ?_, .nil⟩
      rw [TypeName.closeGaps_append hr rfl, closeGaps_nil]
  | @gap t ts b blanks y ht hb h ih =>
      intro r hr hword
      have htoken := hts t (List.mem_cons_self ..)
      have ih := ih fun u hu => hts u (List.mem_cons_of_mem _ hu)
      rw [passedOver, ht, Bool.and_self, if_pos rfl]
      rcases List.eq_nil_or_concat r with rfl | ⟨front, c, hc⟩
      · -- passed over: the blank stays, and the next word is free again
        obtain ⟨y', hclose, hwoven⟩ := ih t (fun d => htoken.isBlank_of_mem)
          fun _ d => htoken.isWord_of_mem ht
        have hfree : t.isEmpty = false := by
          cases t with
          | nil => cases ht
          | cons d t => rfl
        rw [hfree] at hwoven
        refine ⟨b :: (t ++ y'), ?_, .gap ht hb hwoven⟩
        rw [List.nil_append, closeGaps_cons_of_not_word (isWord_of_isBlank hb), hclose]
        rfl
      · rw [List.concat_eq_append] at hc
        subst hc
        cases t with
        | nil => cases ht
        | cons d t =>
            obtain ⟨y', hclose, hwoven⟩ := ih t
              (fun e he => htoken.isBlank_of_mem (List.mem_cons_of_mem _ he))
              fun _ e he => htoken.isWord_of_mem ht (List.mem_cons_of_mem _ he)
            have hfront : ∀ e ∈ front, isBlank e = false := fun e he =>
              hr e (List.mem_append_left _ he)
            have hcword : isWord c = true := hword rfl c (by simp)
            have htrim : trimStart (b :: (d :: t ++ y)) = d :: (t ++ y) := by
              rw [trimStart, List.dropWhile_cons_of_pos hb]
              exact trimStart_cons_of_not_blank (isBlank_of_isWord ht) _
            refine ⟨' ' :: (d :: t ++ y'), ?_, ?_⟩
            · rw [List.append_assoc, List.singleton_append,
                TypeName.closeGaps_append hfront (by simp [isBlank_of_isWord hcword]),
                closeGaps_gap hcword (by simpa using hb) htrim ht, hclose]
              simp
            · have htaken : ((d :: t).length == 1) = t.isEmpty := by
                cases t <;> simp
              have hleft : (front ++ [c]).isEmpty = false := by simp
              rw [hleft, htaken, Bool.not_false, Bool.true_and]
              exact .gap ht isBlank_space hwoven
  | @plain f t ts blanks y hf h ih =>
      intro r hr _
      have htoken := hts t (List.mem_cons_self ..)
      obtain ⟨y', hclose, hwoven⟩ := ih (fun u hu => hts u (List.mem_cons_of_mem _ hu)) t
        (fun d => htoken.isBlank_of_mem) fun hs d => htoken.isWord_of_mem hs
      have hhead : (t ++ y).head?.any isBlank = false ∧ t.isEmpty = false := by
        cases t with
        | nil =>
            cases htoken with
            | word hne _ => exact absurd rfl hne
        | cons d t => exact ⟨htoken.isBlank_of_mem (List.mem_cons_self ..), rfl⟩
      rw [hhead.2] at hwoven
      refine ⟨t ++ y', ?_, ?_⟩
      · rw [TypeName.closeGaps_append hr hhead.1, hclose]
      · rw [passedOver, hf, if_neg Bool.false_ne_true]
        exact .plain hf hwoven

/-- The text that mappings and arrows are spaced in is woven from the
tokens and the spelled gaps. -/
theorem closeGaps_tight_woven (x : List Char) :
    Woven false (tokens x) (spelledGaps x) (closeGaps (tight false x)) := by
  obtain ⟨y, hclose, hwoven⟩ := (tight_woven (Bool.false_and (startsWord x))).closeGaps_append
    (fun t => isToken_of_mem_tokens) [] (by simp) (by simp)
  rw [List.nil_append, List.nil_append] at hclose
  rw [List.isEmpty_nil, passedOver_false] at hwoven
  rw [hclose]
  exact hwoven

theorem closeGaps_tight_eq_iff (x y : List Char) :
    closeGaps (tight false x) = closeGaps (tight false y)
      ↔ tokens x = tokens y ∧ spelledGaps x = spelledGaps y := by
  have hx := closeGaps_tight_woven x
  have hy := closeGaps_tight_woven y
  constructor
  · intro h
    have htokens : tokens x = tokens y := by
      rw [← tokens_tight x false, ← tokens_closeGaps, h, tokens_closeGaps, tokens_tight]
    refine ⟨htokens, ?_⟩
    rw [← hx.filter_isBlank fun t => isToken_of_mem_tokens, h,
      hy.filter_isBlank fun t => isToken_of_mem_tokens]
  · intro ⟨htokens, hgaps⟩
    rw [htokens, hgaps] at hx
    exact hx.text_unique hy

-- ====================================================== the dependence

/-- Without words of one character every gap is spelled as a space. -/
theorem spelledGaps_of_long {x : List Char}
    (h : ∀ w ∈ tokens x, startsWord w = true → w.length ≠ 1) :
    spelledGaps x = List.replicate (passedOver false false (tokens x)).length ' ' := by
  have hlength := (tight_woven (Bool.false_and (startsWord x))).length_eq false
  unfold spelledGaps
  rw [passedOver_of_long h, List.length_replicate]
  generalize (passedOver false false (tokens x)).length = n at hlength
  generalize gapBlanks false x = blanks at hlength
  subst hlength
  induction blanks with
  | nil => rfl
  | cons b blanks ih => simp [List.replicate_succ, respell, ih]

/-- Two types are spelled alike exactly when they have the same tokens and
the same gaps are spelled between them. The spelling has one blank between
two words, a space unless the gap is passed over, so that without words of
one character the tokens decide. -/
theorem canonical_eq_iff_tokens_gaps (s t : String) :
    (canonical s = canonical t
        ↔ tokens s.toList = tokens t.toList ∧ spelledGaps s.toList = spelledGaps t.toList)
      ∧ (∃ y, Woven false (tokens s.toList) (spelledGaps s.toList) y
        ∧ canonical s = String.ofList (spaceArrows (spaceMappings [] y)))
      ∧ ((∀ w ∈ tokens s.toList, startsWord w = true → w.length ≠ 1) →
        tokens s.toList = tokens t.toList → canonical s = canonical t) := by
  have hiff : canonical s = canonical t ↔ tokens s.toList = tokens t.toList
      ∧ spelledGaps s.toList = spelledGaps t.toList := by
    rw [← closeGaps_tight_eq_iff, canonical, canonical, String.ofList_inj]
    constructor
    · intro h
      rw [← tight_canonicalChars, h, tight_canonicalChars]
    · intro h
      rw [canonicalChars_eq, h, ← canonicalChars_eq]
  refine ⟨hiff, ⟨_, closeGaps_tight_woven s.toList, ?_⟩, fun hlong htokens => ?_⟩
  · rw [canonical, canonicalChars_eq]
  · refine hiff.2 ⟨htokens, ?_⟩
    rw [spelledGaps_of_long hlong, spelledGaps_of_long (htokens ▸ hlong), htokens]

/-- Between words of one letter the second gap keeps its tab; between longer
words it does not. -/
theorem letterGap_keeps_tab :
    tokens "a b\tc".toList = tokens "a b c".toList
      ∧ canonical "a b\tc" ≠ canonical "a b c"
      ∧ canonical "ab cd\tef" = canonical "ab cd ef" := by
  refine ⟨by decide +kernel, fun h => ?_, ?_⟩
  · have hgaps := ((canonical_eq_iff_tokens_gaps _ _).1.1 h).2
    exact absurd hgaps (by decide +kernel)
  · exact (canonical_eq_iff_tokens_gaps _ _).2.2 (by decide +kernel) (by decide +kernel)

-- ===================================================== nothing is lost

/-- Spelling a type loses none of its tokens, and spelling it again changes
nothing. -/
theorem canonical_idempotent_lossless (s : String) :
    canonical (canonical s) = canonical s
      ∧ tokens (canonical s).toList = tokens s.toList := by
  refine ⟨canonical_canonical s, ?_⟩
  rw [canonical, String.toList_ofList]
  exact tokens_canonicalChars s.toList

-- ====================================================== round by round

/-- A loop that closes the gaps of its text until a round changes nothing:
begun with `text` it stops in round `n`, with `result`. -/
inductive Settles : List Char → Nat → List Char → Prop
  | stop {text : List Char} (h : closeGaps text = text) : Settles text 1 text
  | again {text result : List Char} {n : Nat} (h : closeGaps text ≠ text)
      (hrest : Settles (closeGaps text) n result) : Settles text (n + 1) result

/-- The loop stops, once, in the first round when there is nothing to close
and else in the second: the gaps that the first round passed over are passed
over again. -/
theorem settles_iff {text result : List Char} {n : Nat} :
    Settles text n result
      ↔ result = closeGaps text ∧ n = if closeGaps text = text then 1 else 2 := by
  have hclosed := closeGaps_closeGaps text
  constructor
  · intro h
    cases h with
    | stop h => exact ⟨h.symm, (if_pos h).symm⟩
    | again h hrest =>
        rw [if_neg h]
        cases hrest with
        | stop => exact ⟨rfl, rfl⟩
        | again hagain => exact absurd hclosed hagain
  · intro ⟨hresult, hn⟩
    subst hresult hn
    by_cases h : closeGaps text = text
    · rw [if_pos h, h]
      exact .stop h
    · rw [if_neg h]
      exact .again h (.stop hclosed)

/-- Closing the gaps of a closed text changes nothing. So a loop that closes
them over and over stops by its second round, on every text, with what the
first round has made of it; and this is what the canonical spelling goes on
with. -/
theorem gaps_settle_by_second_round (text : List Char) :
    closeGaps (closeGaps text) = closeGaps text
      ∧ (∀ n result, Settles text n result
        ↔ result = closeGaps text ∧ n = if closeGaps text = text then 1 else 2)
      ∧ ∃ n ≤ 2, ∃ result, Settles (tightenAfter false (tightenBefore (trim text))) n result
        ∧ canonicalChars text = spaceArrows (spaceMappings [] result) := by
  refine ⟨closeGaps_closeGaps text, fun n result => settles_iff, _, ?_, _,
    settles_iff.2 ⟨rfl, rfl⟩, rfl⟩
  split
  · exact Nat.le_succ 1
  · exact Nat.le_refl 2

example : Settles "a\t\tb \tc".toList 2 "a b \tc".toList := by
  rw [settles_iff]
  decide +kernel

end ContractDocs.TypeName
