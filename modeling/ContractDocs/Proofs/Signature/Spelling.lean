/-
The canonical spelling of a type loses nothing, and spelling it again
changes nothing.

# One pass for two

`TypeName.canonicalChars` trims a text and tightens it from both sides.
Proofs use the one-pass form `tight`: a blank stays only as the last one
between two words. `tighten_eq_tight` says that the passes amount to it,
and `isTight` is the form they leave behind: every blank joins two words.

# Why the spelling is stable

The spaces that mappings and arrows get stand next to symbols, so `tight`
takes them out again (`tight_spaceMappings`, `tight_spaceArrows`). Gaps are
closed in place, a tight text stays tight (`isTight_closeGaps`), and a
closed gap is found closed the next time (`closeGaps_closeGaps`). Together
they give `canonicalChars_canonicalChars`.

Between one-letter words a gap may keep the blank it was written with, so
the spelling is no function of the tokens. It is one where all blanks are
spaces: `canonicalChars_eq_of_tokens_eq`. There, a word at the end adds only
itself to the spelling of what stands before it, with a space where that
ends in a word (`canonicalChars_concat_word`, `canonicalChars_append_words`).
-/
import ContractDocs.Proofs.Text.Tokens
import ContractDocs.Signature.TypeName

namespace ContractDocs.TypeName

open Text

-- ================================================ the one-pass tightening

/-- Keeps of the blanks between two words the last one, and no other blank;
`afterWord` says that the last character that is not blank was a word
character. -/
def tight (afterWord : Bool) : List Char → List Char
  | [] => []
  | c :: rest =>
    if isBlank c then
      if afterWord && startsWord rest then c :: tight false rest
      else tight afterWord rest
    else c :: tight (isWord c) rest

/-- Every blank joins two words; `afterWord` says that a word character
stands before the text. -/
def isTight (afterWord : Bool) : List Char → Bool
  | [] => true
  | c :: rest =>
    if isBlank c then afterWord && startsWord rest && isTight false rest
    else isTight (isWord c) rest

theorem tight_cons_of_not_blank {c : Char} (hc : isBlank c = false)
    (f : Bool) (x : List Char) : tight f (c :: x) = c :: tight (isWord c) x := by
  rw [tight, hc]
  rfl

/-- A blank before anything but a word goes. -/
theorem tight_cons_blank {c : Char} {x : List Char} (hc : isBlank c = true)
    (hx : startsWord x = false) (f : Bool) : tight f (c :: x) = tight f x := by
  rw [tight, hc, hx, Bool.and_false]
  rfl

/-- A blank that follows no word goes. -/
theorem tight_false_cons_blank {c : Char} (hc : isBlank c = true)
    (x : List Char) : tight false (c :: x) = tight false x := by
  rw [tight, hc, Bool.false_and]
  rfl

/-- The last blank between two words stays. -/
theorem tight_true_cons_blank {c : Char} {x : List Char}
    (hc : isBlank c = true) (hx : startsWord x = true) :
    tight true (c :: x) = c :: tight false x := by
  rw [tight, hc, hx]
  rfl

/-- In front of a text without a leading blank the flag does not matter. -/
theorem tight_flag {x : List Char} (hx : x.head?.any isBlank = false)
    (f g : Bool) : tight f x = tight g x := by
  cases x with
  | nil => rfl
  | cons c x =>
      have hc : isBlank c = false := hx
      rw [tight_cons_of_not_blank hc, tight_cons_of_not_blank hc]

theorem head?_any_isBlank_of_startsWord {x : List Char}
    (hx : startsWord x = true) : x.head?.any isBlank = false := by
  cases x with
  | nil => rfl
  | cons c x => exact isBlank_of_isWord hx

/-- Tightening after a word does not change whether a word follows. -/
theorem startsWord_tight_true (x : List Char) :
    startsWord (tight true x) = startsWord x := by
  induction x with
  | nil => rfl
  | cons c x ih =>
      cases hc : isBlank c with
      | false => rw [tight_cons_of_not_blank hc, startsWord_cons, startsWord_cons]
      | true =>
          cases hx : startsWord x with
          | true => rw [tight_true_cons_blank hc hx, startsWord_cons, startsWord_cons]
          | false =>
              rw [tight_cons_blank hc hx, ih, hx, startsWord_cons,
                isWord_of_isBlank hc]

/-- Nor does it when a word stands in front. -/
theorem startsWord_tight_of_startsWord {x : List Char}
    (hx : startsWord x = true) (f : Bool) : startsWord (tight f x) = true := by
  rw [tight_flag (head?_any_isBlank_of_startsWord hx) f true,
    startsWord_tight_true, hx]

-- ===================================================== tight texts

theorem isTight_tight (x : List Char) :
    ∀ f, isTight f (tight f x) = true := by
  induction x with
  | nil => intro f; rfl
  | cons c x ih =>
      intro f
      cases hc : isBlank c with
      | false =>
          rw [tight_cons_of_not_blank hc, isTight, hc]
          exact ih _
      | true =>
          cases hx : startsWord x with
          | false =>
              rw [tight_cons_blank hc hx]
              exact ih f
          | true =>
              cases f with
              | false =>
                  rw [tight_false_cons_blank hc]
                  exact ih false
              | true =>
                  rw [tight_true_cons_blank hc hx, isTight, hc, if_pos rfl,
                    startsWord_tight_of_startsWord hx, ih false]
                  rfl

/-- Nothing is left to do on a tight text. -/
theorem tight_of_isTight {x : List Char} :
    ∀ {f}, isTight f x = true → tight f x = x := by
  induction x with
  | nil => intro f _; rfl
  | cons c x ih =>
      intro f h
      rw [isTight] at h
      cases hc : isBlank c with
      | false =>
          rw [hc] at h
          rw [tight_cons_of_not_blank hc, ih h]
      | true =>
          rw [hc, if_pos rfl, Bool.and_eq_true, Bool.and_eq_true] at h
          obtain ⟨⟨rfl, hx⟩, h⟩ := h
          rw [tight_true_cons_blank hc hx, ih h]

-- ============================================ the passes, one by one

/-- Both passes at once, on a text that does not end in a blank. The second
pass remembers the character it wrote last and `tight` the last one that
was not blank; after a kept blank a word follows, where neither looks. -/
theorem tightenAfter_tightenBefore {x : List Char} :
    endsBlank x = false →
      ∀ o, tightenAfter o (tightenBefore x) = tight (!o) x := by
  fun_induction tightenBefore x with
  | case1 => intro _ o; rfl
  | case2 c =>
      intro h o
      have hc : isBlank c = false := h
      rw [tight_cons_of_not_blank hc, tightenAfter, hc, Bool.and_false]
      rfl
  | case3 c d rest hcd ih =>
      intro h o
      rw [Bool.and_eq_true, Bool.not_eq_true'] at hcd
      rw [ih (by rwa [endsBlank, List.getLast?_cons_cons] at h) o,
        tight_cons_blank hcd.1 (startsWord_cons d rest ▸ hcd.2)]
  | case4 c d rest hcd ih =>
      intro h o
      have ih := ih (by rwa [endsBlank, List.getLast?_cons_cons] at h)
      rw [tightenAfter]
      cases hc : isBlank c with
      | false =>
          rw [Bool.and_false, if_neg (by simp), ih,
            tight_cons_of_not_blank hc, Bool.not_not]
      | true =>
          have hd : startsWord (d :: rest) = true := by
            rw [hc, Bool.true_and, Bool.not_eq_true, Bool.not_eq_false'] at hcd
            exact hcd
          cases o with
          | true =>
              rw [Bool.and_true, if_pos rfl, ih, Bool.not_true,
                tight_false_cons_blank hc]
          | false =>
              rw [Bool.false_and, if_neg (by simp), isWord_of_isBlank hc,
                Bool.not_false, ih, Bool.not_true,
                tight_true_cons_blank hc hd]

/-- Blanks in front go. -/
theorem tight_trimStart (x : List Char) : tight false (trimStart x) = tight false x := by
  induction x with
  | nil => rfl
  | cons c x ih =>
      cases hc : isBlank c with
      | true =>
          rw [trimStart, List.dropWhile_cons_of_pos hc, tight_false_cons_blank hc]
          exact ih
      | false => rw [trimStart_cons_of_not_blank hc]

/-- Blanks at the end go. -/
theorem tight_append_blanks {b : List Char} (hb : isBlankText b = true)
    (x : List Char) : ∀ f, tight f (x ++ b) = tight f x := by
  have hstart : startsWord b = false := by
    cases b with
    | nil => rfl
    | cons d b =>
        rw [isBlankText, List.all_cons, Bool.and_eq_true] at hb
        rw [startsWord_cons, isWord_of_isBlank hb.1]
  induction x with
  | nil =>
      intro f
      induction b with
      | nil => rfl
      | cons d b ih =>
          rw [isBlankText, List.all_cons, Bool.and_eq_true] at hb
          have hnext : startsWord b = false := by
            cases b with
            | nil => rfl
            | cons e b =>
                rw [List.all_cons, Bool.and_eq_true] at hb
                rw [startsWord_cons, isWord_of_isBlank hb.2.1]
          rw [List.nil_append, tight_cons_blank hb.1 hnext]
          exact ih hb.2 hnext
  | cons c x ih =>
      intro f
      have hx : startsWord (x ++ b) = startsWord x := by
        cases x with
        | nil => exact hstart
        | cons d x => rfl
      rw [List.cons_append, tight, tight, hx, ih, ih, ih]

theorem tight_trim (x : List Char) : tight false (trim x) = tight false x := by
  obtain ⟨b, hb, hx⟩ := trimEnd_cut (trimStart x)
  rw [trim, ← tight_append_blanks hb, ← hx, tight_trimStart]

-- ================================================= tight, then spelled

/-- No blank stands at either end of a trimmed text. -/
theorem trim_ends (x : List Char) :
    (trim x).head?.any isBlank = false ∧ endsBlank (trim x) = false := by
  constructor
  · cases hx : trim x with
    | nil => rfl
    | cons c y =>
        obtain ⟨b, -, hcut⟩ := trimEnd_cut (trimStart x)
        rw [trim] at hx
        rw [hx, List.cons_append] at hcut
        exact isBlank_of_trimStart_eq_cons hcut
  · cases hx : (trimStart x).reverse.dropWhile isBlank with
    | nil => rw [trim, trimEnd, hx]; rfl
    | cons c y =>
        rw [trim, trimEnd, hx, endsBlank, List.getLast?_reverse]
        exact isBlank_of_trimStart_eq_cons hx

/-- The passes of `canonicalChars` before the gaps amount to `tight`. -/
theorem tighten_eq_tight (x : List Char) :
    tightenAfter false (tightenBefore (trim x)) = tight false x := by
  rw [tightenAfter_tightenBefore (trim_ends x).2,
    tight_flag (trim_ends x).1 _ false, tight_trim]

theorem canonicalChars_eq (x : List Char) :
    canonicalChars x
      = spaceArrows (spaceMappings [] (closeGaps (tight false x))) := by
  rw [canonicalChars, tighten_eq_tight]

theorem canonicalChars_trim (x : List Char) :
    canonicalChars (trim x) = canonicalChars x := by
  rw [canonicalChars_eq, tight_trim, ← canonicalChars_eq]

-- ============================================================ the gaps

@[simp] theorem closeGaps_nil : closeGaps [] = [] := by
  rw [closeGaps]

/-- Closing gaps keeps the first character. -/
theorem head?_closeGaps (x : List Char) : (closeGaps x).head? = x.head? := by
  fun_cases closeGaps x <;> rfl

theorem startsWord_closeGaps (x : List Char) :
    startsWord (closeGaps x) = startsWord x := by
  rw [startsWord, head?_closeGaps, startsWord]

/-- A character that opens no gap is passed over. -/
theorem closeGaps_cons_of_not_word {c : Char} (hc : isWord c = false)
    (x : List Char) : closeGaps (c :: x) = c :: closeGaps x := by
  rw [closeGaps, hc, Bool.false_and, if_neg (by simp)]

/-- A gap with word characters on both sides is closed. -/
theorem closeGaps_gap {c d : Char} {x y : List Char} (hc : isWord c = true)
    (hx : x.head?.any isBlank = true) (htrim : trimStart x = d :: y)
    (hd : isWord d = true) :
    closeGaps (c :: x) = c :: ' ' :: d :: closeGaps y := by
  rw [closeGaps, hc, hx, Bool.true_and, if_pos rfl]
  split
  · next h => rw [htrim] at h; cases h
  · next e z h =>
      rw [htrim] at h
      cases h
      rw [if_pos hd]

/-- Without a gap, or with nothing to join behind it, the next character is
looked at. -/
theorem closeGaps_cons_of_no_gap {c : Char} {x : List Char}
    (h : (isWord c && x.head?.any isBlank && startsWord (trimStart x)) = false) :
    closeGaps (c :: x) = c :: closeGaps x := by
  rw [closeGaps]
  split
  · next hgap =>
      split
      · rfl
      · next d y hy =>
          rw [hgap, hy, Bool.true_and] at h
          rw [if_neg (by rw [← startsWord_cons d y, h]; simp)]
  · rfl

/-- The blanks in front of a text are left alone. -/
theorem trimStart_closeGaps (x : List Char) :
    trimStart (closeGaps x) = closeGaps (trimStart x) := by
  induction x with
  | nil => rw [closeGaps_nil, trimStart, List.dropWhile_nil, closeGaps_nil]
  | cons c x ih =>
      cases hc : isBlank c with
      | true =>
          rw [closeGaps_cons_of_not_word (isWord_of_isBlank hc), trimStart,
            trimStart, List.dropWhile_cons_of_pos hc,
            List.dropWhile_cons_of_pos hc]
          exact ih
      | false =>
          rw [trimStart_cons_of_not_blank hc]
          have hhead := head?_closeGaps (c :: x)
          cases hy : closeGaps (c :: x) with
          | nil => rfl
          | cons d y =>
              rw [hy] at hhead
              cases hhead
              exact trimStart_cons_of_not_blank hc y

/-- Closed gaps are found closed: the second time the same word characters
pair up. -/
theorem closeGaps_closeGaps (x : List Char) :
    closeGaps (closeGaps x) = closeGaps x := by
  fun_induction closeGaps x with
  | case1 => exact closeGaps_nil
  | case2 c rest h _ ih =>
      rw [closeGaps_cons_of_no_gap, ih]
      rw [trimStart_closeGaps, startsWord_closeGaps, ‹trimStart rest = []›]
      simp
  | case3 c rest h d after htrim hd ih =>
      rw [Bool.and_eq_true] at h
      have hspace : trimStart (' ' :: d :: closeGaps after)
          = d :: closeGaps after := by
        rw [trimStart, List.dropWhile_cons_of_pos isBlank_space]
        exact trimStart_cons_of_not_blank (isBlank_of_isWord hd) _
      have hblank : (' ' :: d :: closeGaps after).head?.any isBlank = true :=
        isBlank_space
      rw [closeGaps_gap h.1 hblank hspace hd, ih]
  | case4 c rest h d after htrim hd ih =>
      rw [closeGaps_cons_of_no_gap, ih]
      rw [trimStart_closeGaps, startsWord_closeGaps, htrim, startsWord_cons]
      simp [hd]
  | case5 c rest h ih =>
      rw [closeGaps_cons_of_no_gap, ih]
      rw [head?_closeGaps, Bool.and_eq_false_iff]
      exact Or.inl (by simpa using h)

/-- A gap of a tight text is one blank, and the word begins right behind it. -/
theorem isTight_gap {f : Bool} {c d : Char} {rest after : List Char}
    (hgap : (isWord c && rest.head?.any isBlank) = true)
    (htrim : trimStart rest = d :: after) (h : isTight f (c :: rest) = true) :
    ∃ b, isBlank b = true ∧ rest = b :: d :: after
      ∧ isTight (isWord d) after = true := by
  rw [Bool.and_eq_true] at hgap
  cases rest with
  | nil => cases htrim
  | cons b rest =>
      have hb : isBlank b = true := hgap.2
      rw [isTight, isBlank_of_isWord hgap.1, if_neg (by simp), hgap.1, isTight,
        hb, if_pos rfl, Bool.true_and, Bool.and_eq_true] at h
      have hrest : rest = d :: after := by
        rw [trimStart, List.dropWhile_cons_of_pos hb] at htrim
        cases rest with
        | nil => cases htrim
        | cons e rest =>
            rw [List.dropWhile_cons_of_neg
              (by simp [isBlank_of_isWord h.1])] at htrim
            exact htrim
      rw [hrest, startsWord_cons, isTight] at h
      rw [isBlank_of_isWord h.1, if_neg (by simp)] at h
      exact ⟨b, hb, by rw [hrest], h.2⟩

/-- Closing a gap of a tight text leaves one blank between two words. -/
theorem isTight_closeGaps (x : List Char) :
    ∀ f, isTight f x = true → isTight f (closeGaps x) = true := by
  -- in every case but the closed gap the first character stays in its place
  have step : ∀ (c : Char) (rest : List Char),
      (∀ f, isTight f rest = true → isTight f (closeGaps rest) = true) →
      ∀ f, isTight f (c :: rest) = true →
        isTight f (c :: closeGaps rest) = true := by
    intro c rest ih f h
    rw [isTight] at h ⊢
    cases hc : isBlank c with
    | false =>
        rw [hc] at h
        exact ih _ h
    | true =>
        rw [hc, if_pos rfl, Bool.and_eq_true] at h
        rw [if_pos rfl, startsWord_closeGaps, Bool.and_eq_true]
        exact ⟨h.1, ih _ h.2⟩
  fun_induction closeGaps x with
  | case1 => intro f _; rfl
  | case2 c rest h _ ih => exact step c rest ih
  | case3 c rest h d after htrim hd ih =>
      intro f htight
      obtain ⟨-, -, -, htight⟩ := isTight_gap h htrim htight
      rw [hd] at htight
      rw [Bool.and_eq_true] at h
      rw [isTight, isBlank_of_isWord h.1, if_neg (by simp), h.1, isTight,
        if_pos isBlank_space, startsWord_cons, hd, isTight,
        isBlank_of_isWord hd, if_neg (by simp), hd, ih true htight]
      rfl
  | case4 c rest h d after htrim hd ih => exact step c rest ih
  | case5 c rest h ih => exact step c rest ih

-- ============================================== spaces next to symbols

theorem startsWord_spaceMappings (before x : List Char) :
    startsWord (spaceMappings before x) = startsWord x := by
  cases x with
  | nil => rfl
  | cons c x =>
      rw [spaceMappings]
      split
      · next h =>
          rw [Bool.and_eq_true, decide_eq_true_eq] at h
          rw [h.1, startsWord_cons, startsWord_cons]
          decide
      · rfl

theorem startsWord_spaceArrows (x : List Char) :
    startsWord (spaceArrows x) = startsWord x := by
  fun_cases spaceArrows x
  · simp only [startsWord_cons]
    decide
  · rfl
  · rfl

/-- The spaces of mappings stand before a parenthesis. -/
theorem tight_spaceMappings (x : List Char) :
    ∀ before f, tight f (spaceMappings before x) = tight f x := by
  induction x with
  | nil => intro before f; rfl
  | cons c x ih =>
      intro before f
      have hc : tight f (c :: spaceMappings (c :: before) x) = tight f (c :: x) := by
        rw [tight, startsWord_spaceMappings, ih, ih, ih, tight]
      rw [spaceMappings]
      split
      · next h =>
          rw [Bool.and_eq_true, decide_eq_true_eq] at h
          rw [tight_cons_blank isBlank_space (by rw [h.1, startsWord_cons]; decide),
            hc]
      · exact hc

/-- The spaces of arrows stand before `=` and behind `>`. -/
theorem tight_spaceArrows (x : List Char) :
    ∀ f, tight f (spaceArrows x) = tight f x := by
  fun_induction spaceArrows x with
  | case1 rest ih =>
      intro f
      rw [tight_cons_blank isBlank_space (by rw [startsWord_cons]; decide),
        tight_cons_of_not_blank (by decide),
        tight_cons_of_not_blank (by decide),
        show isWord '>' = false by decide,
        tight_false_cons_blank isBlank_space, ih,
        tight_cons_of_not_blank (by decide),
        tight_cons_of_not_blank (by decide),
        show isWord '>' = false by decide]
  | case2 c rest _ ih =>
      intro f
      rw [tight, startsWord_spaceArrows, ih, ih, ih, tight]
  | case3 => intro f; rfl

/-- Tightening undoes the spaces of the canonical spelling. -/
theorem tight_canonicalChars (x : List Char) :
    tight false (canonicalChars x) = closeGaps (tight false x) := by
  rw [canonicalChars_eq, tight_spaceArrows, tight_spaceMappings]
  exact tight_of_isTight (isTight_closeGaps _ _ (isTight_tight x false))

/-- The canonical spelling is its own canonical spelling. -/
theorem canonicalChars_canonicalChars (x : List Char) :
    canonicalChars (canonicalChars x) = canonicalChars x := by
  rw [canonicalChars_eq (canonicalChars x), tight_canonicalChars,
    closeGaps_closeGaps, ← canonicalChars_eq]

theorem canonical_canonical (text : String) :
    canonical (canonical text) = canonical text := by
  rw [canonical, canonical, String.toList_ofList, canonicalChars_canonicalChars]

-- ==================================================== nothing is lost

/-- One more character in front of two texts with the same tokens. -/
theorem tokens_cons_congr {x y : List Char} (c : Char)
    (ht : tokens x = tokens y) (hs : startsWord x = startsWord y) :
    tokens (c :: x) = tokens (c :: y) := by
  rw [tokens, tokens, ht, hs]

theorem tokens_tight (x : List Char) : ∀ f, tokens (tight f x) = tokens x := by
  induction x with
  | nil => intro f; rfl
  | cons c x ih =>
      intro f
      cases hc : isBlank c with
      | true =>
          rw [tokens_cons_blank hc, tight, hc, if_pos rfl]
          split
          · rw [tokens_cons_blank hc, ih]
          · exact ih f
      | false =>
          rw [tight_cons_of_not_blank hc]
          cases hw : isWord c with
          | true => exact tokens_cons_congr c (ih true) (startsWord_tight_true x)
          | false =>
              rw [tokens_cons_single hc (by rw [glued_singleton, hw]; rfl),
                tokens_cons_single hc (by rw [glued_singleton, hw]; rfl), ih]

theorem tokens_closeGaps (x : List Char) : tokens (closeGaps x) = tokens x := by
  fun_induction closeGaps x with
  | case1 => rfl
  | case2 c rest h _ ih => exact tokens_cons_congr c ih (startsWord_closeGaps rest)
  | case3 c rest h d after htrim hd ih =>
      -- the blanks between `c` and `d` hold no token
      have hrest : startsWord rest = false := by
        rw [Bool.and_eq_true] at h
        cases rest with
        | nil => rfl
        | cons b rest => rw [startsWord_cons, isWord_of_isBlank h.2]
      have htail : tokens (' ' :: d :: closeGaps after) = tokens rest := by
        rw [tokens_cons_blank isBlank_space,
          tokens_cons_congr d ih (startsWord_closeGaps after), ← htrim,
          tokens_trimStart]
      refine tokens_cons_congr c htail ?_
      rw [startsWord_cons, isWord_of_isBlank isBlank_space, hrest]
  | case4 c rest h d after htrim hd ih =>
      exact tokens_cons_congr c ih (startsWord_closeGaps rest)
  | case5 c rest h ih => exact tokens_cons_congr c ih (startsWord_closeGaps rest)

theorem tokens_spaceMappings (x : List Char) :
    ∀ before, tokens (spaceMappings before x) = tokens x := by
  induction x with
  | nil => intro before; rfl
  | cons c x ih =>
      intro before
      have hc := tokens_cons_congr c (ih (c :: before))
        (startsWord_spaceMappings (c :: before) x)
      rw [spaceMappings]
      split
      · rw [tokens_cons_blank isBlank_space, hc]
      · exact hc

theorem tokens_spaceArrows (x : List Char) : tokens (spaceArrows x) = tokens x := by
  fun_induction spaceArrows x with
  | case1 rest ih =>
      have harrow : ∀ y, tokens ('=' :: '>' :: y) = ['='] :: ['>'] :: tokens y := by
        intro y
        have hg : ∀ c z, isWord c = false → glued [c] z = false := by
          intro c z hc
          rw [glued_singleton, hc, Bool.false_and]
        rw [tokens_cons_single (by decide) (hg _ _ (by decide)),
          tokens_cons_single (by decide) (hg _ _ (by decide))]
      rw [tokens_cons_blank isBlank_space, harrow, harrow,
        tokens_cons_blank isBlank_space, ih]
  | case2 c rest _ ih => exact tokens_cons_congr c ih (startsWord_spaceArrows rest)
  | case3 => rfl

/-- The canonical spelling has the tokens of the text it spells. -/
theorem tokens_canonicalChars (x : List Char) :
    tokens (canonicalChars x) = tokens x := by
  rw [canonicalChars_eq, tokens_spaceArrows, tokens_spaceMappings,
    tokens_closeGaps, tokens_tight]

-- ======================================= where all blanks are spaces

/-- Tokens side by side, with a space between two words; `afterWord` says
that a word stands before them. -/
def layout (afterWord : Bool) : List (List Char) → List Char
  | [] => []
  | t :: ts =>
    (if afterWord && startsWord t then ' ' :: t else t) ++ layout (endsWord t) ts

/-- Where all blanks are spaces, a tight text is laid out from its tokens. -/
theorem tight_eq_layout {x : List Char} :
    ∀ {f}, OnlySpaces x → (f && startsWord x) = false →
      tight f x = layout f (tokens x) := by
  induction x with
  | nil => intro f _ _; rfl
  | cons c x ih =>
      intro f hsp hf
      have hspx : OnlySpaces x := fun d hd => hsp d (List.mem_cons_of_mem _ hd)
      cases hc : isBlank c with
      | true =>
          rw [tokens_cons_blank hc, tight, hc, if_pos rfl]
          split
          · next hgap =>
              -- a word follows the gap: the layout puts the space there
              rw [Bool.and_eq_true] at hgap
              obtain ⟨t, ts, hts, ht⟩ := tokens_of_startsWord hgap.2
              rw [hsp c (List.mem_cons_self ..) hc, ih hspx (Bool.false_and _),
                hts, layout, layout, hgap.1, ht]
              rfl
          · next hgap => exact ih hspx (by simpa using hgap)
      | false =>
          rw [startsWord_cons] at hf
          rw [tight_cons_of_not_blank hc]
          cases hg : glued [c] x with
          | false =>
              rw [tokens_cons_single hc hg, ih hspx (glued_singleton c x ▸ hg),
                layout, startsWord_cons, hf]
              rfl
          | true =>
              rw [glued_singleton, Bool.and_eq_true] at hg
              rw [tokens_cons_glued hg.1 hg.2,
                tight_flag (head?_any_isBlank_of_startsWord hg.2) _ false,
                ih hspx (Bool.false_and _)]
              obtain ⟨t, ts, hts, ht⟩ := tokens_of_startsWord hg.2
              have hends : endsWord (c :: t) = endsWord t := by
                cases t with
                | nil => cases ht
                | cons d t => rw [endsWord, List.getLast?_cons_cons, endsWord]
              rw [hts, List.modifyHead_cons, layout, layout, startsWord_cons, hf,
                Bool.false_and, hends]
              rfl

/-- Where all blanks are spaces, the canonical spelling is read off the
tokens. -/
theorem canonicalChars_eq_of_tokens_eq {x y : List Char} (hx : OnlySpaces x)
    (hy : OnlySpaces y) (h : tokens x = tokens y) :
    canonicalChars x = canonicalChars y := by
  rw [canonicalChars_eq, canonicalChars_eq,
    tight_eq_layout hx (Bool.false_and _), h,
    ← tight_eq_layout hy (Bool.false_and _)]

-- ================================================ words at the end

/-- Where all blanks are spaces, the gaps of a tight text are closed. -/
theorem closeGaps_of_onlySpaces {x : List Char} :
    ∀ {f}, isTight f x = true → OnlySpaces x → closeGaps x = x := by
  -- in every case but the closed gap the first character stays in its place
  have step : ∀ (c : Char) (rest : List Char),
      (∀ {f}, isTight f rest = true → OnlySpaces rest → closeGaps rest = rest) →
      ∀ {f}, isTight f (c :: rest) = true → OnlySpaces (c :: rest) →
        c :: closeGaps rest = c :: rest := by
    intro c rest ih f h hsp
    have hrest : OnlySpaces rest := fun d hd => hsp d (List.mem_cons_of_mem _ hd)
    rw [isTight] at h
    cases hc : isBlank c with
    | false =>
        rw [hc] at h
        rw [ih h hrest]
    | true =>
        rw [hc, if_pos rfl, Bool.and_eq_true] at h
        rw [ih h.2 hrest]
  fun_induction closeGaps x with
  | case1 => exact fun _ _ => rfl
  | case2 c rest h _ ih => exact step c rest ih
  | case3 c rest h d after htrim hd ih =>
      intro f htight hsp
      obtain ⟨b, hb, rfl, hafter⟩ := isTight_gap h htrim htight
      rw [hsp b (by simp) hb, ih hafter fun e he => hsp e (by simp [he])]
  | case4 c rest h d after htrim hd ih => exact step c rest ih
  | case5 c rest h ih => exact step c rest ih

theorem onlySpaces_tight {x : List Char} (h : OnlySpaces x) :
    ∀ f, OnlySpaces (tight f x) := by
  induction x with
  | nil => intro f c hc; cases hc
  | cons d x ih =>
      have ih := ih fun e he => h e (List.mem_cons_of_mem _ he)
      have hcons : ∀ f, OnlySpaces (d :: tight f x) := by
        intro f c hc
        rcases List.mem_cons.1 hc with rfl | hc
        · exact h c (List.mem_cons_self ..)
        · exact ih f c hc
      intro f
      rw [tight]
      split
      · split
        · exact hcons _
        · exact ih _
      · exact hcons _

/-- Where all blanks are spaces, only mappings and arrows are left to space
after the layout. -/
theorem canonicalChars_eq_layout {x : List Char} (h : OnlySpaces x) :
    canonicalChars x = spaceArrows (spaceMappings [] (layout false (tokens x))) := by
  rw [canonicalChars_eq,
    closeGaps_of_onlySpaces (isTight_tight x false) (onlySpaces_tight h false),
    tight_eq_layout h (Bool.false_and _)]

/-- A token at the end gets a space before it where it is a word behind a
word. -/
theorem layout_concat (w : List Char) (ts : List (List Char)) :
    ∀ f, layout f (ts ++ [w]) = layout f ts
      ++ if (ts.getLast?.map endsWord).getD f && startsWord w then ' ' :: w else w := by
  induction ts with
  | nil =>
      intro f
      rw [List.nil_append, layout, layout, layout, List.append_nil]
      rfl
  | cons u ts ih =>
      intro f
      have hlast : ((u :: ts).getLast?.map endsWord).getD f
          = (ts.getLast?.map endsWord).getD (endsWord u) := by
        rw [List.getLast?_cons]
        cases ts.getLast? <;> rfl
      rw [List.cons_append, layout, layout, ih, hlast, List.append_assoc]

theorem spaceMappings_append {y : List Char} (hy : '(' ∉ y) (x : List Char) :
    ∀ before, spaceMappings before (x ++ y) = spaceMappings before x ++ y := by
  have hself : ∀ before, spaceMappings before y = y := by
    induction y with
    | nil => exact fun _ => rfl
    | cons c y ih =>
        intro before
        rw [List.mem_cons, not_or] at hy
        rw [spaceMappings, ih hy.2]
        simp [Ne.symm hy.1]
  induction x with
  | nil => exact hself
  | cons c x ih =>
      intro before
      rw [List.cons_append, spaceMappings, spaceMappings, ih]
      split <;> rfl

theorem spaceArrows_append {y : List Char} (hy : '=' ∉ y ∧ '>' ∉ y)
    (x : List Char) : spaceArrows (x ++ y) = spaceArrows x ++ y := by
  have hself : spaceArrows y = y := by
    induction y with
    | nil => rfl
    | cons c y ih =>
        rw [List.mem_cons, not_or, List.mem_cons, not_or] at hy
        rw [spaceArrows.eq_2 c y fun _ hc => absurd hc.symm hy.1.1,
          ih ⟨hy.1.2, hy.2.2⟩]
  fun_induction spaceArrows x with
  | case1 rest ih =>
      rw [List.cons_append, List.cons_append, spaceArrows, ih]
      rfl
  | case2 c rest hc ih =>
      rw [List.cons_append, spaceArrows.eq_2 c (rest ++ y), ih]
      · rfl
      · -- an arrow would have to end in `y`
        rintro more rfl hmore
        cases rest with
        | nil =>
            rw [List.nil_append] at hmore
            exact hy.2 (hmore ▸ List.mem_cons_self ..)
        | cons d rest =>
            cases hmore
            exact hc rest rfl rfl
  | case3 => exact hself

theorem onlySpaces_append_word {x w : List Char} (hx : OnlySpaces x)
    (hw : ∀ c ∈ w, isWord c = true) : OnlySpaces (x ++ ' ' :: w) := by
  intro c hc hb
  rcases List.mem_append.1 hc with hc | hc
  · exact hx c hc hb
  · rcases List.mem_cons.1 hc with rfl | hc
    · rfl
    · rw [isBlank_of_isWord (hw c hc)] at hb
      cases hb

/-- A word more at the end of a text is spelled behind a space where the text
ends in a word, and right behind it where it ends in a symbol. -/
theorem canonicalChars_concat_word {x y w : List Char} (hx : OnlySpaces x)
    (hy : OnlySpaces y) (htokens : tokens y = tokens x ++ [w]) (hne : w ≠ [])
    (hw : ∀ c ∈ w, isWord c = true) :
    canonicalChars y = canonicalChars x
      ++ if (tokens x).getLast?.any endsWord then ' ' :: w else w := by
  have hstart : startsWord w = true := by
    cases w with
    | nil => exact absurd rfl hne
    | cons c w => exact hw c (List.mem_cons_self ..)
  have hlast : ((tokens x).getLast?.map endsWord).getD false
      = (tokens x).getLast?.any endsWord := by
    cases (tokens x).getLast? <;> rfl
  -- whichever way the word is set, it brings no symbol of mappings or arrows
  have hsymbol : ∀ c, isWord c = false → c ≠ ' ' →
      c ∉ (if (tokens x).getLast?.any endsWord then ' ' :: w else w) := by
    intro c hc hspace hmem
    have hmem : c ∈ ' ' :: w := by
      split at hmem
      · exact hmem
      · exact List.mem_cons_of_mem _ hmem
    rcases List.mem_cons.1 hmem with rfl | hmem
    · exact hspace rfl
    · rw [hw c hmem] at hc
      cases hc
  rw [canonicalChars_eq_layout hy, canonicalChars_eq_layout hx, htokens,
    layout_concat, hlast, hstart, Bool.and_true,
    spaceMappings_append (hsymbol _ (by decide) (by decide)),
    spaceArrows_append ⟨hsymbol _ (by decide) (by decide),
      hsymbol _ (by decide) (by decide)⟩]

/-- Words behind a text that ends in a word are spelled each behind a
space. -/
theorem canonicalChars_append_words {x y : List Char} {ws : List (List Char)}
    (hx : OnlySpaces x) (hy : OnlySpaces y) (htokens : tokens y = tokens x ++ ws)
    (hws : ∀ w ∈ ws, w ≠ [] ∧ ∀ c ∈ w, isWord c = true)
    (hlast : ws ≠ [] → ∃ t ∈ (tokens x).getLast?, endsWord t = true) :
    canonicalChars y = canonicalChars x ++ ws.flatMap (' ' :: ·) := by
  induction ws generalizing x with
  | nil =>
      rw [List.append_nil] at htokens
      rw [canonicalChars_eq_of_tokens_eq hy hx htokens]
      exact (List.append_nil _).symm
  | cons w ws ih =>
      obtain ⟨hne, hw⟩ := hws w (List.mem_cons_self ..)
      have hword : (tokens x).getLast?.any endsWord = true :=
        (Option.any_eq_true _ _).2 (hlast (List.cons_ne_nil _ _))
      have hnext : tokens (x ++ ' ' :: w) = tokens x ++ [w] := by
        rw [tokens_append_blank isBlank_space, tokens_word hne hw]
      have hspaces := onlySpaces_append_word hx hw
      have hends : endsWord w = true := by
        rw [endsWord, List.getLast?_eq_some_getLast hne, Option.any_some]
        exact hw _ (List.getLast_mem hne)
      rw [ih hspaces (by rw [htokens, hnext, List.append_assoc]; rfl)
          (fun v hv => hws v (List.mem_cons_of_mem _ hv))
          (fun _ => ⟨w, by rw [hnext, List.getLast?_concat]; rfl, hends⟩),
        canonicalChars_concat_word hx hspaces hnext hne hw, if_pos hword]
      simp

end ContractDocs.TypeName
