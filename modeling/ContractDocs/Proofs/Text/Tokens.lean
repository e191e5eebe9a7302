/-
The tokens of a text: maximal runs of word characters, and every symbol by
itself. Blanks separate tokens and belong to none, so two texts with the
same tokens differ in their blanks only.

# Cuts

A cut of a text into two pieces respects the tokens unless it falls inside
a word (`glued`). Cuts that respect them are cuts of the token list, in
both directions: `tokens_append` reads the tokens of the pieces off the
text, and `exists_cut` finds the place where a token list is cut. A cut
whose first piece does not end in a blank is fixed by its tokens
(`cut_unique`).

# What trimming and collapsing keep

Trimming and collapsing touch blanks only, so they keep the tokens
(`tokens_trim`, `tokens_collapse`), and with them every character that is
not blank (`flatten_tokens`).
-/
import ContractDocs.Text.Words
import Mathlib.Data.List.DropRight

namespace ContractDocs.Text

-- ======================================================= the definition

/-- The text begins with a word character. -/
def startsWord (cs : List Char) : Bool :=
  cs.head?.any isWord

/-- The text ends with a word character. -/
def endsWord (cs : List Char) : Bool :=
  cs.getLast?.any isWord

/-- The text ends with a blank. -/
def endsBlank (cs : List Char) : Bool :=
  cs.getLast?.any isBlank

/-- A word at the end of `x` runs on into `y`. -/
def glued (x y : List Char) : Bool :=
  endsWord x && startsWord y

/-- The maximal runs of word characters and the single symbols of a text,
in order. -/
def tokens : List Char → List (List Char)
  | [] => []
  | c :: rest =>
    if isBlank c then tokens rest
    else if isWord c && startsWord rest then (tokens rest).modifyHead (c :: ·)
    else [c] :: tokens rest

/-- Nothing but spaces separates the tokens. -/
def OnlySpaces (cs : List Char) : Prop :=
  ∀ c ∈ cs, isBlank c = true → c = ' '

instance (cs : List Char) : Decidable (OnlySpaces cs) :=
  List.decidableBAll (fun c => isBlank c = true → c = ' ') cs

theorem isBlank_space : isBlank ' ' = true := by
  decide

-- ================================================== the ends of a text

@[simp] theorem startsWord_nil : startsWord [] = false := rfl

@[simp] theorem startsWord_cons (c : Char) (x : List Char) :
    startsWord (c :: x) = isWord c := rfl

theorem startsWord_append_of_ne_nil {x : List Char} (hx : x ≠ [])
    (y : List Char) : startsWord (x ++ y) = startsWord x := by
  cases x with
  | nil => exact absurd rfl hx
  | cons c x => rfl

@[simp] theorem glued_nil_left (y : List Char) : glued [] y = false := rfl

@[simp] theorem glued_nil_right (x : List Char) : glued x [] = false := by
  simp [glued]

theorem glued_singleton (c : Char) (y : List Char) :
    glued [c] y = (isWord c && startsWord y) := rfl

theorem glued_cons_of_ne_nil {x : List Char} (hx : x ≠ []) (c : Char)
    (y : List Char) : glued (c :: x) y = glued x y := by
  cases x with
  | nil => exact absurd rfl hx
  | cons d x =>
      unfold glued endsWord
      rw [List.getLast?_cons_cons]

/-- Before a blank every cut respects the words. -/
theorem glued_cons_blank {b : Char} (hb : isBlank b = true)
    (x y : List Char) : glued x (b :: y) = false := by
  unfold glued
  rw [startsWord_cons, isWord_of_isBlank hb, Bool.and_false]

-- =================================================== one step at a time

@[simp] theorem tokens_nil : tokens [] = [] := rfl

theorem tokens_cons_blank {c : Char} (hc : isBlank c = true)
    (x : List Char) : tokens (c :: x) = tokens x := by
  rw [tokens, if_pos hc]

theorem tokens_cons_glued {c : Char} {x : List Char} (hc : isWord c = true)
    (hx : startsWord x = true) :
    tokens (c :: x) = (tokens x).modifyHead (c :: ·) := by
  rw [tokens, isBlank_of_isWord hc, hc, hx]
  rfl

theorem tokens_cons_single {c : Char} {x : List Char}
    (hb : isBlank c = false) (hg : glued [c] x = false) :
    tokens (c :: x) = [c] :: tokens x := by
  rw [glued_singleton] at hg
  rw [tokens, hb, hg]
  rfl

/-- A text that starts with a word has a first token, which starts with
it. -/
theorem tokens_of_startsWord {x : List Char} (hx : startsWord x = true) :
    ∃ t ts, tokens x = t :: ts ∧ startsWord t = true := by
  induction x with
  | nil => cases hx
  | cons c x ih =>
      rw [startsWord_cons] at hx
      cases hg : startsWord x with
      | true =>
          obtain ⟨t, ts, hts, -⟩ := ih hg
          exact ⟨c :: t, ts, by rw [tokens_cons_glued hx hg, hts]; rfl, hx⟩
      | false =>
          refine ⟨[c], tokens x, ?_, hx⟩
          rw [tokens_cons_single (isBlank_of_isWord hx)
            (by rw [glued_singleton, hg, Bool.and_false])]

-- ================================================================ cuts

/-- The tokens of two pieces, when the cut between them is not inside a
word. -/
theorem tokens_append {x y : List Char} (h : glued x y = false) :
    tokens (x ++ y) = tokens x ++ tokens y := by
  induction x with
  | nil => rfl
  | cons c x ih =>
      rw [List.cons_append]
      cases hb : isBlank c with
      | true =>
          rw [tokens_cons_blank hb, tokens_cons_blank hb]
          cases x with
          | nil => rfl
          | cons d x => exact ih (by rwa [glued_cons_of_ne_nil (by simp)] at h)
      | false =>
          cases x with
          | nil =>
              rw [List.nil_append, tokens_cons_single hb h,
                tokens_cons_single hb (glued_nil_right _)]
              rfl
          | cons d x =>
              have htail := ih (by rwa [glued_cons_of_ne_nil (by simp)] at h)
              cases hg : glued [c] (d :: x) with
              | true =>
                  rw [glued_singleton, Bool.and_eq_true] at hg
                  rw [tokens_cons_glued hg.1 (by simpa using hg.2),
                    tokens_cons_glued hg.1 hg.2, htail]
                  obtain ⟨t, ts, hts, -⟩ := tokens_of_startsWord hg.2
                  rw [hts]
                  rfl
              | false =>
                  rw [tokens_cons_single hb hg,
                    tokens_cons_single hb (by simpa [glued_singleton] using hg),
                    htail]
                  rfl

/-- A blank separates the tokens on its two sides. -/
theorem tokens_append_blank {b : Char} (hb : isBlank b = true)
    (x y : List Char) : tokens (x ++ b :: y) = tokens x ++ tokens y := by
  rw [tokens_append (glued_cons_blank hb x y), tokens_cons_blank hb]

/-- Every cut of the token list is a cut of the text. -/
theorem exists_cut {x : List Char} :
    ∀ {A B : List (List Char)}, tokens x = A ++ B →
      ∃ p q, x = p ++ q ∧ glued p q = false ∧ tokens p = A ∧ tokens q = B := by
  induction x with
  | nil =>
      intro A B h
      obtain ⟨rfl, rfl⟩ := List.nil_eq_append_iff.1 h
      exact ⟨[], [], rfl, rfl, rfl, rfl⟩
  | cons c x ih =>
      intro A B h
      -- a cut before the first token leaves the whole text behind it
      cases A with
      | nil => exact ⟨[], c :: x, rfl, rfl, rfl, h⟩
      | cons a A =>
          cases hb : isBlank c with
          | true =>
              rw [tokens_cons_blank hb] at h
              obtain ⟨p, q, rfl, hg, hp, hq⟩ := ih h
              refine ⟨c :: p, q, rfl, ?_, by rw [tokens_cons_blank hb, hp], hq⟩
              have hne : p ≠ [] := by rintro rfl; simp at hp
              rwa [glued_cons_of_ne_nil hne]
          | false =>
              cases hg : glued [c] x with
              | true =>
                  rw [glued_singleton, Bool.and_eq_true] at hg
                  rw [tokens_cons_glued hg.1 hg.2] at h
                  obtain ⟨t, ts, hts, -⟩ := tokens_of_startsWord hg.2
                  rw [hts, List.modifyHead_cons, List.cons_append,
                    List.cons.injEq] at h
                  obtain ⟨p, q, hx, hcut, hp, hq⟩ :=
                    ih (show tokens x = (t :: A) ++ B by rw [hts, h.2]; rfl)
                  subst hx
                  have hne : p ≠ [] := by rintro rfl; simp at hp
                  have hs : startsWord p = true := by
                    rw [← startsWord_append_of_ne_nil hne q]
                    exact hg.2
                  refine ⟨c :: p, q, rfl, ?_, ?_, hq⟩
                  · rwa [glued_cons_of_ne_nil hne]
                  · rw [tokens_cons_glued hg.1 hs, hp, List.modifyHead_cons, h.1]
              | false =>
                  rw [tokens_cons_single hb hg, List.cons_append,
                    List.cons.injEq] at h
                  obtain ⟨p, q, rfl, hcut, hp, hq⟩ := ih h.2
                  refine ⟨c :: p, q, rfl, ?_, ?_, hq⟩
                  · cases p with
                    | nil => exact hg
                    | cons d p => rwa [glued_cons_of_ne_nil (by simp)]
                  · have hcp : glued [c] p = false := by
                      cases p with
                      | nil => exact glued_nil_right _
                      | cons d p => exact hg
                    rw [tokens_cons_single hb hcp, hp, h.1]

-- =============================================== characters of a token

/-- The tokens hold exactly the characters that are not blank. -/
theorem flatten_tokens (x : List Char) :
    (tokens x).flatten = x.filter (!isBlank ·) := by
  induction x with
  | nil => rfl
  | cons c x ih =>
      cases hb : isBlank c with
      | true =>
          rw [tokens_cons_blank hb, ih, List.filter_cons_of_neg (by simp [hb])]
      | false =>
          rw [List.filter_cons_of_pos (by simp [hb]), ← ih]
          cases hg : glued [c] x with
          | true =>
              rw [glued_singleton, Bool.and_eq_true] at hg
              rw [tokens_cons_glued hg.1 hg.2]
              obtain ⟨t, ts, hts, -⟩ := tokens_of_startsWord hg.2
              rw [hts]
              rfl
          | false =>
              rw [tokens_cons_single hb hg]
              rfl

/-- A character that is not blank stands in some token. -/
theorem exists_mem_token {x : List Char} {c : Char} (hc : c ∈ x)
    (hb : isBlank c = false) : ∃ t ∈ tokens x, c ∈ t := by
  have hflat : c ∈ (tokens x).flatten := by
    rw [flatten_tokens]
    exact List.mem_filter.2 ⟨hc, by simp [hb]⟩
  exact List.mem_flatten.1 hflat

/-- The characters of a token stand in the text. -/
theorem mem_of_mem_token {x t : List Char} {c : Char} (ht : t ∈ tokens x)
    (hc : c ∈ t) : c ∈ x := by
  have hflat : c ∈ (tokens x).flatten := List.mem_flatten.2 ⟨t, ht, hc⟩
  rw [flatten_tokens] at hflat
  exact (List.mem_filter.1 hflat).1

/-- Texts with the same tokens agree on the characters that are not
blank. -/
theorem mem_of_tokens_eq {x y : List Char} (h : tokens x = tokens y)
    {c : Char} (hc : c ∈ x) (hb : isBlank c = false) : c ∈ y := by
  obtain ⟨t, ht, hct⟩ := exists_mem_token hc hb
  exact mem_of_mem_token (h ▸ ht) hct

/-- Texts with the same tokens agree on every class of characters that
holds no blank. -/
theorem filter_eq_of_tokens_eq {x y : List Char} (h : tokens x = tokens y)
    {p : Char → Bool} (hp : ∀ c, p c = true → isBlank c = false) :
    x.filter p = y.filter p := by
  have key : ∀ z : List Char, z.filter p = (tokens z).flatten.filter p := by
    intro z
    rw [flatten_tokens, List.filter_filter]
    refine List.filter_congr fun c _ => ?_
    cases hc : p c with
    | false => rfl
    | true => simp [hp c hc]
  rw [key x, key y, h]

/-- Only a text of blanks has no token. -/
theorem tokens_eq_nil_iff {x : List Char} :
    tokens x = [] ↔ isBlankText x = true := by
  unfold isBlankText
  rw [List.all_eq_true]
  constructor
  · intro h c hc
    cases hb : isBlank c with
    | true => rfl
    | false => exact absurd (mem_of_tokens_eq (y := []) h hc hb) (by simp)
  · intro h
    induction x with
    | nil => rfl
    | cons c x ih =>
        rw [tokens_cons_blank (h c (List.mem_cons_self ..))]
        exact ih fun d hd => h d (List.mem_cons_of_mem _ hd)

/-- A word is one token. -/
theorem tokens_word {w : List Char} (hne : w ≠ [])
    (hw : ∀ c ∈ w, isWord c = true) : tokens w = [w] := by
  induction w with
  | nil => exact absurd rfl hne
  | cons c w ih =>
      have hc := hw c (List.mem_cons_self ..)
      cases w with
      | nil =>
          rw [tokens_cons_single (isBlank_of_isWord hc) (glued_nil_right _)]
          rfl
      | cons d w =>
          have hd := hw d (List.mem_cons_of_mem _ (List.mem_cons_self ..))
          rw [tokens_cons_glued hc (startsWord_cons d w ▸ hd),
            ih (by simp) fun e he => hw e (List.mem_cons_of_mem _ he)]
          rfl

/-- What a token is: a word, or a symbol by itself. -/
inductive IsToken : List Char → Prop
  | word {w : List Char} (hne : w ≠ []) (hw : ∀ c ∈ w, isWord c = true) : IsToken w
  | symbol {c : Char} (hc : isSymbol c = true) : IsToken [c]

theorem isToken_of_mem_tokens {x t : List Char} (h : t ∈ tokens x) : IsToken t := by
  induction x generalizing t with
  | nil => cases h
  | cons c x ih =>
      cases hb : isBlank c with
      | true =>
          rw [tokens_cons_blank hb] at h
          exact ih h
      | false =>
          cases hg : glued [c] x with
          | false =>
              rw [tokens_cons_single hb hg] at h
              rcases List.mem_cons.1 h with rfl | h
              · cases hc : isWord c with
                | true => exact .word (List.cons_ne_nil _ _) (by simpa using hc)
                | false => exact .symbol (by simp [isSymbol, hc, hb])
              · exact ih h
          | true =>
              rw [glued_singleton, Bool.and_eq_true] at hg
              obtain ⟨u, us, hus, hu⟩ := tokens_of_startsWord hg.2
              rw [tokens_cons_glued hg.1 hg.2, hus] at h
              rcases List.mem_cons.1 h with rfl | h
              · -- the word that `c` continues to the left is a token of `x`
                cases ih (hus ▸ List.mem_cons_self ..) with
                | word hne hw =>
                    refine .word (List.cons_ne_nil _ _) fun d hd => ?_
                    rcases List.mem_cons.1 hd with rfl | hd
                    · exact hg.1
                    · exact hw d hd
                | symbol hs => simp_all [isSymbol]
              · exact ih (hus ▸ List.mem_cons_of_mem _ h)

/-- No token holds a blank. -/
theorem IsToken.isBlank_of_mem {t : List Char} (ht : IsToken t) {c : Char} (hc : c ∈ t) :
    isBlank c = false := by
  cases ht with
  | word hne hw => exact isBlank_of_isWord (hw c hc)
  | symbol hs =>
      rw [List.mem_singleton] at hc
      simp_all [isSymbol]

/-- A token that starts with a word character is a word. -/
theorem IsToken.isWord_of_mem {t : List Char} (ht : IsToken t) (hs : startsWord t = true)
    {c : Char} (hc : c ∈ t) : isWord c = true := by
  cases ht with
  | word hne hw => exact hw c hc
  | symbol h => simp_all [isSymbol]

/-- A text that does not end in a blank ends as its last token does. -/
theorem endsWord_eq_of_endsBlank {x : List Char} (h : endsBlank x = false) :
    endsWord x = (tokens x).getLast?.any endsWord := by
  rcases List.eq_nil_or_concat x with hnil | ⟨y, c, hx⟩
  · rw [hnil]
    rfl
  · rw [List.concat_eq_append] at hx
    have hc : isBlank c = false := by
      rwa [hx, endsBlank, List.getLast?_concat] at h
    have hflat : (tokens x).flatten = y.filter (!isBlank ·) ++ [c] := by
      rw [flatten_tokens, hx, List.filter_append,
        List.filter_cons_of_pos (by simp [hc]), List.filter_nil]
    rcases List.eq_nil_or_concat (tokens x) with hnil | ⟨ts, t, ht⟩
    · rw [hnil] at hflat
      simp at hflat
    · rw [List.concat_eq_append] at ht
      have htne : t ≠ [] := by
        cases isToken_of_mem_tokens (x := x) (t := t) (by rw [ht]; simp) with
        | word hne _ => exact hne
        | symbol _ => exact List.cons_ne_nil _ _
      -- the last character of the text is the last one of its last token
      rw [ht, List.flatten_append, List.flatten_singleton] at hflat
      have hlast := congrArg List.getLast? hflat
      rw [List.getLast?_concat, List.getLast?_append_of_ne_nil _ htne] at hlast
      rw [ht, List.getLast?_concat, Option.any_some, hx, endsWord, endsWord,
        List.getLast?_concat, hlast]

/-- Of two cuts of one text whose first pieces do not end in a blank, the
tokens of the first piece tell which is which. -/
theorem cut_unique {p q p' q' : List Char} (h : p ++ q = p' ++ q')
    (hg : glued p q = false) (hg' : glued p' q' = false)
    (hb : endsBlank p = false) (hb' : endsBlank p' = false)
    (ht : tokens p = tokens p') : p = p' := by
  -- of the two pieces one is longer by `m`, which then holds no token
  have key : ∀ {p m q' : List Char}, glued p (m ++ q') = false →
      endsBlank (p ++ m) = false → tokens p = tokens (p ++ m) → m = [] := by
    intro p m q' hg hb ht
    cases hm : m.getLast? with
    | none => exact List.getLast?_eq_none_iff.1 hm
    | some d =>
        have hne : m ≠ [] := by rintro rfl; cases hm
        have hpm : glued p m = false := by
          unfold glued at hg ⊢
          rwa [startsWord_append_of_ne_nil hne] at hg
        rw [tokens_append hpm, List.self_eq_append_right,
          tokens_eq_nil_iff, isBlankText, List.all_eq_true] at ht
        have hd := ht d (List.mem_of_getLast? hm)
        rw [endsBlank, List.getLast?_append, hm] at hb
        simp [hd] at hb
  rcases List.append_eq_append_iff.1 h with ⟨m, rfl, rfl⟩ | ⟨m, rfl, rfl⟩
  · rw [key hg hb' ht, List.append_nil]
  · rw [key hg' hb ht.symm, List.append_nil]

-- ============================================================ trimming

/-- Blanks before a text hold no token. -/
theorem tokens_blank_append {b : List Char} (hb : isBlankText b = true)
    (x : List Char) : tokens (b ++ x) = tokens x := by
  induction b with
  | nil => rfl
  | cons c b ih =>
      rw [isBlankText, List.all_cons, Bool.and_eq_true] at hb
      rw [List.cons_append, tokens_cons_blank hb.1]
      exact ih hb.2

/-- Blanks after a text hold no token. -/
theorem tokens_append_blanks {b : List Char} (hb : isBlankText b = true)
    (x : List Char) : tokens (x ++ b) = tokens x := by
  cases b with
  | nil => rw [List.append_nil]
  | cons c b =>
      rw [isBlankText, List.all_cons, Bool.and_eq_true] at hb
      rw [tokens_append_blank hb.1, tokens_eq_nil_iff.2 hb.2, List.append_nil]

/-- What `trimStart` drops is blank. -/
theorem trimStart_cut (x : List Char) :
    ∃ b, isBlankText b = true ∧ x = b ++ trimStart x :=
  ⟨x.takeWhile isBlank, by simp [isBlankText, List.all_takeWhile],
    (List.takeWhile_append_dropWhile ..).symm⟩

/-- What `trimEnd` drops is blank. -/
theorem trimEnd_cut (x : List Char) :
    ∃ b, isBlankText b = true ∧ x = trimEnd x ++ b := by
  obtain ⟨b, hb, hx⟩ := trimStart_cut x.reverse
  refine ⟨b.reverse, by simpa [isBlankText] using hb, ?_⟩
  rw [trimEnd, ← List.reverse_append]
  exact (List.reverse_eq_iff.1 hx)

theorem tokens_trimStart (x : List Char) : tokens (trimStart x) = tokens x := by
  obtain ⟨b, hb, hx⟩ := trimStart_cut x
  conv_rhs => rw [hx, tokens_blank_append hb]

theorem tokens_trimEnd (x : List Char) : tokens (trimEnd x) = tokens x := by
  obtain ⟨b, hb, hx⟩ := trimEnd_cut x
  conv_rhs => rw [hx, tokens_append_blanks hb]

theorem tokens_trim (x : List Char) : tokens (trim x) = tokens x := by
  rw [trim, tokens_trimEnd, tokens_trimStart]

/-- No blank stands at the front of a trimmed text. -/
theorem isBlank_of_trimStart_eq_cons {x y : List Char} {c : Char}
    (h : trimStart x = c :: y) : isBlank c = false := by
  have hd := List.head?_dropWhile_not isBlank x
  rw [trimStart] at h
  rw [h] at hd
  simpa using hd

/-- A text with a token keeps something when it is trimmed. -/
theorem trimStart_eq_nil_iff {x : List Char} :
    trimStart x = [] ↔ tokens x = [] := by
  constructor
  · intro h
    rw [← tokens_trimStart, h]
    rfl
  · intro h
    rw [← tokens_trimStart, tokens_eq_nil_iff, isBlankText] at h
    cases hx : trimStart x with
    | nil => rfl
    | cons c y =>
        rw [hx, List.all_cons, isBlank_of_trimStart_eq_cons hx] at h
        cases h

/-- A text that starts with something else than a blank is not cut in
front. -/
theorem trimStart_cons_of_not_blank {c : Char} (hc : isBlank c = false)
    (x : List Char) : trimStart (c :: x) = c :: x := by
  rw [trimStart, List.dropWhile_cons_of_neg (by simp [hc])]

theorem trimStart_blank_append {b : List Char} (hb : isBlankText b = true)
    (x : List Char) : trimStart (b ++ x) = trimStart x :=
  List.dropWhile_append_of_pos (List.all_eq_true.1 hb)

/-- No word begins with a blank. -/
theorem startsWord_blank_append {b : List Char} (hb : isBlankText b = true)
    {x : List Char} (hx : startsWord x = false) : startsWord (b ++ x) = false := by
  cases b with
  | nil => exact hx
  | cons c b =>
      rw [List.cons_append, startsWord_cons]
      cases hword : isWord c with
      | false => rfl
      | true =>
          have hc := List.all_eq_true.1 hb c (List.mem_cons_self ..)
          rw [isBlank_of_isWord hword] at hc
          cases hc

/-- What follows the first word of a text does not continue it. -/
theorem startsWord_dropWhile (x : List Char) :
    startsWord (x.dropWhile isWord) = false := by
  have hd := List.head?_dropWhile_not isWord x
  cases h : x.dropWhile isWord with
  | nil => rfl
  | cons c y =>
      rw [h] at hd
      rw [startsWord_cons]
      simpa using hd

/-- A word in front of something that does not continue it is the first. -/
theorem first_word_append {w rest : List Char} (hw : ∀ c ∈ w, isWord c = true)
    (hrest : startsWord rest = false) :
    (w ++ rest).takeWhile isWord = w ∧ (w ++ rest).dropWhile isWord = rest := by
  have hstop : rest.takeWhile isWord = [] ∧ rest.dropWhile isWord = rest := by
    cases rest with
    | nil => exact ⟨rfl, rfl⟩
    | cons c x =>
        rw [startsWord_cons] at hrest
        exact ⟨List.takeWhile_cons_of_neg (by simp [hrest]),
          List.dropWhile_cons_of_neg (by simp [hrest])⟩
  constructor
  · rw [List.takeWhile_append_of_pos hw, hstop.1, List.append_nil]
  · rw [List.dropWhile_append_of_pos hw, hstop.2]

-- ========================================================== collapsing

/-- Cutting a text at its blanks cuts no token. -/
theorem flatMap_tokens_splitOnP (x : List Char) :
    (x.splitOnP isBlank).flatMap tokens = tokens x := by
  -- by length: a blank cuts the text into two shorter ones
  induction hn : x.length using Nat.strongRecOn generalizing x with
  | ind n ih =>
      by_cases h : ∀ c ∈ x, isBlank c = false
      · rw [List.splitOnP_eq_singleton h, List.flatMap_singleton]
      · simp only [not_forall, Bool.not_eq_false] at h
        obtain ⟨b, hmem, hb⟩ := h
        obtain ⟨p, q, rfl⟩ := List.append_of_mem hmem
        rw [List.length_append, List.length_cons] at hn
        rw [List.splitOnP_append_cons p q hb, List.flatMap_append,
          tokens_append_blank hb, ih p.length (by omega) p rfl,
          ih q.length (by omega) q rfl]

/-- Words keep the tokens of the text they are cut from. -/
theorem flatMap_tokens_words (x : List Char) :
    (words x).flatMap tokens = tokens x := by
  rw [← flatMap_tokens_splitOnP x, words]
  induction x.splitOnP isBlank with
  | nil => rfl
  | cons w ws ih =>
      cases w with
      | nil => simpa using ih
      | cons c w =>
          rw [List.filter_cons_of_pos (by simp), List.flatMap_cons,
            List.flatMap_cons, ih]

theorem tokens_intercalate_space (xs : List (List Char)) :
    tokens ([' '].intercalate xs) = xs.flatMap tokens := by
  induction xs with
  | nil => rfl
  | cons x xs ih =>
      cases xs with
      | nil => simp
      | cons y ys =>
          rw [List.intercalate_cons_cons, List.append_assoc,
            List.singleton_append, tokens_append_blank isBlank_space, ih]
          rfl

/-- Collapsing changes blanks only. -/
theorem tokens_collapse (x : List Char) : tokens (collapse x) = tokens x := by
  rw [collapse, tokens_intercalate_space, flatMap_tokens_words]

/-- No piece between blanks holds a blank. -/
theorem isBlank_of_mem_splitOnP {x : List Char} :
    ∀ w ∈ x.splitOnP isBlank, ∀ c ∈ w, isBlank c = false := by
  induction x with
  | nil => simp [List.splitOnP_nil]
  | cons d x ih =>
      rw [List.splitOnP_cons_eq_if_modifyHead]
      cases hd : isBlank d with
      | true =>
          intro w hw c hc
          rcases List.mem_cons.1 hw with rfl | hw
          · cases hc
          · exact ih w hw c hc
      | false =>
          obtain ⟨p, ps, hps⟩ := List.exists_cons_of_ne_nil
            (List.splitOnP_ne_nil isBlank x)
          rw [hps] at ih ⊢
          intro w hw c hc
          rcases List.mem_cons.1 hw with rfl | hw
          · rcases List.mem_cons.1 hc with rfl | hc
            · exact hd
            · exact ih p (List.mem_cons_self ..) c hc
          · exact ih w (List.mem_cons_of_mem _ hw) c hc

/-- A word has a character, and no blank. -/
theorem mem_words {x w : List Char} (h : w ∈ words x) :
    w ≠ [] ∧ ∀ c ∈ w, isBlank c = false := by
  obtain ⟨hmem, hne⟩ := List.mem_filter.1 h
  exact ⟨by simpa using hne, isBlank_of_mem_splitOnP w hmem⟩

/-- A text without blanks, apart from the blanks, is the text. -/
theorem filter_of_no_blank {w : List Char} (h : ∀ c ∈ w, isBlank c = false) :
    w.filter (!isBlank ·) = w := by
  refine List.filter_eq_self.2 fun c hc => ?_
  rw [h c hc]
  rfl

/-- The words hold exactly the characters that are not blank. -/
theorem flatten_words (x : List Char) :
    (words x).flatten = x.filter (!isBlank ·) := by
  rw [← flatten_tokens, ← flatMap_tokens_words, List.flatten_eq_flatMap,
    List.flatten_eq_flatMap, List.flatMap_assoc]
  refine List.flatMap_congr fun w hw => ?_
  rw [← List.flatten_eq_flatMap, flatten_tokens, filter_of_no_blank (mem_words hw).2]
  rfl

/-- A text with one token has one word. -/
theorem words_of_single_token {x w : List Char} (h : tokens x = [w]) :
    words x = [w] := by
  have hne : ∀ v ∈ words x, tokens v ≠ [] := by
    intro v hv htokens
    obtain ⟨hnil, hblank⟩ := mem_words hv
    rw [← filter_of_no_blank hblank, ← flatten_tokens, htokens] at hnil
    exact hnil rfl
  have htokens : (words x).flatMap tokens = [w] := (flatMap_tokens_words x).trans h
  have hflat := flatten_words x
  rw [← flatten_tokens, h, List.flatten_singleton] at hflat
  match hws : words x with
  | [] =>
      rw [hws] at htokens
      cases htokens
  | [v] =>
      rw [hws, List.flatten_singleton] at hflat
      rw [hflat]
  | v :: u :: vs =>
      have hlength := congrArg List.length htokens
      have hv := List.length_pos_iff.2 (hne v (by simp [hws]))
      have hu := List.length_pos_iff.2 (hne u (by simp [hws]))
      rw [hws, List.flatMap_cons, List.flatMap_cons, List.length_append,
        List.length_append, List.length_singleton] at hlength
      omega

/-- Collapsing leaves no blank but the space. -/
theorem onlySpaces_collapse (x : List Char) : OnlySpaces (collapse x) := by
  have hwords : ∀ w ∈ words x, ∀ c ∈ w, isBlank c = false := fun w hw =>
    (mem_words hw).2
  unfold collapse
  generalize words x = ws at hwords
  induction ws with
  | nil => intro c hc; cases hc
  | cons w ws ih =>
      have hw := hwords w (List.mem_cons_self ..)
      have hws := ih fun v hv => hwords v (List.mem_cons_of_mem _ hv)
      intro c hc hb
      cases ws with
      | nil =>
          rw [List.intercalate_singleton] at hc
          exact absurd hb (by simp [hw c hc])
      | cons v vs =>
          rw [List.intercalate_cons_cons, List.append_assoc, List.mem_append,
            List.singleton_append, List.mem_cons] at hc
          rcases hc with hc | rfl | hc
          · exact absurd hb (by simp [hw c hc])
          · rfl
          · exact hws c hc hb

/-- Words on the two sides of a blank. -/
theorem words_append_blank {b : Char} (hb : isBlank b = true)
    (x y : List Char) : words (x ++ b :: y) = words x ++ words y := by
  rw [words, List.splitOnP_append_cons x y hb, List.filter_append, words, words]

/-- A text without blanks is one word. -/
theorem words_of_no_blank {w : List Char} (hne : w ≠ [])
    (hw : ∀ c ∈ w, isBlank c = false) : words w = [w] := by
  rw [words, List.splitOnP_eq_singleton hw]
  simp [hne]

theorem words_intercalate_space {ws : List (List Char)}
    (hws : ∀ w ∈ ws, w ≠ [] ∧ ∀ c ∈ w, isBlank c = false) :
    words ([' '].intercalate ws) = ws := by
  induction ws with
  | nil => rfl
  | cons w ws ih =>
      have hw := hws w (List.mem_cons_self ..)
      have ih := ih fun v hv => hws v (List.mem_cons_of_mem _ hv)
      cases ws with
      | nil =>
          rw [List.intercalate_singleton]
          exact words_of_no_blank hw.1 hw.2
      | cons v vs =>
          rw [List.intercalate_cons_cons, List.append_assoc,
            List.singleton_append, words_append_blank isBlank_space, ih,
            words_of_no_blank hw.1 hw.2]
          rfl

/-- A collapsed text is collapsed already. -/
theorem collapse_collapse (x : List Char) : collapse (collapse x) = collapse x := by
  have hwords : words (collapse x) = words x :=
    words_intercalate_space fun w hw => mem_words hw
  rw [collapse, hwords, collapse]

/-- A text without blanks is collapsed. -/
theorem collapse_of_no_blank {w : List Char} (hne : w ≠ [])
    (hw : ∀ c ∈ w, isBlank c = false) : collapse w = w := by
  rw [collapse, words_of_no_blank hne hw, List.intercalate_singleton]

/-- A collapsed text does not begin with a blank. -/
theorem isBlank_of_collapse_eq_cons {x y : List Char} {c : Char}
    (h : collapse x = c :: y) : isBlank c = false := by
  unfold collapse at h
  cases hws : words x with
  | nil =>
      rw [hws] at h
      cases h
  | cons w ws =>
      obtain ⟨hne, hblank⟩ := mem_words (hws ▸ List.mem_cons_self ..)
      obtain ⟨d, v, rfl⟩ := List.exists_cons_of_ne_nil hne
      have hd := hblank d (List.mem_cons_self ..)
      rw [hws] at h
      cases ws with
      | nil =>
          rw [List.intercalate_singleton] at h
          cases h
          exact hd
      | cons u us =>
          rw [List.intercalate_cons_cons, List.append_assoc, List.cons_append] at h
          cases h
          exact hd

theorem intercalate_concat {sep w : List Char} {ws : List (List Char)} (h : ws ≠ []) :
    sep.intercalate (ws ++ [w]) = sep.intercalate ws ++ sep ++ w := by
  induction ws with
  | nil => exact absurd rfl h
  | cons v ws ih =>
      cases ws with
      | nil => simp
      | cons u us =>
          rw [List.cons_append, List.intercalate_cons_of_ne_nil (by simp),
            ih (List.cons_ne_nil u us), List.intercalate_cons_cons]
          simp only [List.append_assoc]

theorem trimStart_of_collapse {x : List Char} (h : collapse x = x) : trimStart x = x := by
  cases x with
  | nil => rfl
  | cons c x => exact trimStart_cons_of_not_blank (isBlank_of_collapse_eq_cons h) x

/-- In a collapsed text, a token stands before every blank. -/
theorem tokens_ne_nil_of_collapse {x y : List Char} {b : Char}
    (h : collapse (x ++ b :: y) = x ++ b :: y) (hb : isBlank b = true) :
    tokens x ≠ [] := by
  intro hnil
  rw [tokens_eq_nil_iff, isBlankText] at hnil
  cases x with
  | nil =>
      rw [List.nil_append] at h
      rw [isBlank_of_collapse_eq_cons h] at hb
      cases hb
  | cons c x =>
      rw [List.all_cons, isBlank_of_collapse_eq_cons h] at hnil
      cases hnil

/-- In a collapsed text, a last token behind a space is the last word. -/
theorem eq_append_of_collapse {x y w : List Char}
    (h : collapse (x ++ ' ' :: y) = x ++ ' ' :: y) (hy : tokens y = [w]) :
    x ++ ' ' :: y = collapse x ++ ' ' :: w := by
  have hx : words x ≠ [] := by
    intro hnil
    refine tokens_ne_nil_of_collapse h isBlank_space ?_
    rw [← flatMap_tokens_words, hnil]
    rfl
  rw [← h, collapse, words_append_blank isBlank_space, words_of_single_token hy,
    intercalate_concat hx, collapse, List.append_assoc, List.singleton_append]

/-- A blank in front of a text is not seen. -/
theorem collapse_cons_blank {b : Char} (hb : isBlank b = true)
    (x : List Char) : collapse (b :: x) = collapse x := by
  have hwords : words (b :: x) = words x := words_append_blank hb [] x
  rw [collapse, hwords, collapse]

/-- Only a text of blanks collapses to nothing. -/
theorem collapse_eq_nil_iff {x : List Char} : collapse x = [] ↔ tokens x = [] := by
  constructor
  · intro h
    rw [← tokens_collapse, h]
    rfl
  · intro h
    have hwords : words x = [] := by
      cases hw : words x with
      | nil => rfl
      | cons w ws =>
          have hmem : w ∈ words x := hw ▸ List.mem_cons_self ..
          obtain ⟨hsplit, hne⟩ := List.mem_filter.1 hmem
          rw [← flatMap_tokens_words, List.flatMap_eq_nil_iff] at h
          have htoken := tokens_eq_nil_iff.1 (h w hmem)
          cases w with
          | nil => simp at hne
          | cons c w =>
              have hc := isBlank_of_mem_splitOnP _ hsplit c (List.mem_cons_self ..)
              rw [isBlankText, List.all_cons, hc] at htoken
              cases htoken
    rw [collapse, hwords]
    rfl

end ContractDocs.Text
