/-
Slots are read by their tokens. The reader of a slot lets the type grow one
character at a time until the rest is a location and a name; what it finds
depends on the tokens of the text alone.

# From characters to tokens

`suffixAtEnd` on a text is `suffixOf` on its tokens, as long as the type
does not stop inside a word, where it never succeeds
(`suffixAtEnd_eq_suffixOf`, `suffixAtEnd_of_glued`). So the type stops at
the first cut of the token list whose rest is a suffix: `Reads` says this of
the text, and `Reads.congr` draws the consequence for two texts with the
same tokens.

# Reading a slot back

A parameter or a state variable is written as its canonical type, then
location and name, which has the tokens it was read from. Reading it back
therefore gives the same location and name, and a type with the same tokens;
that its spelling is the same too is where parameters and variables differ.
A parameter is collapsed, so all blanks are spaces; in a variable the type
is found again as it was written, up to the blanks at its ends.
-/
import ContractDocs.Proofs.Signature.Spelling
import ContractDocs.Signature.Render
import ContractDocs.Signature.Slot

namespace ContractDocs.Slot

open Text

-- ================================================= suffixes by tokens

/-- The token is one of the location keywords. -/
def isLocation (token : List Char) : Bool :=
  locationKeywords.contains (String.ofList token)

/-- The name that a list of tokens is, if it is one; no tokens are no
name. -/
def nameOf : List (List Char) → Option (Option String)
  | [] => some none
  | [w] => if w.all isWord then some (some (String.ofList w)) else none
  | _ => none

/-- The location and the name that a list of tokens is; a keyword is taken
where one can be. -/
def suffixOf : List (List Char) → Option (Option String × Option String)
  | [] => some (none, none)
  | w :: ts =>
    (if isLocation w then (nameOf ts).map (some (String.ofList w), ·) else none)
      <|> (nameOf (w :: ts)).map (none, ·)

-- ===================================================== keywords in front

theorem afterLead_eq_some_iff {lead text rest : List Char} :
    afterLead lead text = some rest ↔ text = lead ++ rest := by
  induction lead generalizing text with
  | nil => simp [afterLead, eq_comm]
  | cons l lead ih =>
      cases text with
      | nil => simp [afterLead]
      | cons c text =>
          rw [afterLead]
          by_cases h : l = c
          · rw [if_pos h, ih, h]
            simp
          · rw [if_neg h]
            simp [Ne.symm h]

/-- Keywords are words. -/
theorem isWord_of_mem_locationKeywords {keyword : String}
    (h : keyword ∈ locationKeywords) :
    keyword.toList ≠ [] ∧ ∀ c ∈ keyword.toList, isWord c = true := by
  have hall : locationKeywords.all (fun k =>
      !k.toList.isEmpty && k.toList.all isWord) = true := by
    decide +kernel
  have hkeyword := List.all_eq_true.1 hall keyword h
  rw [Bool.and_eq_true, List.all_eq_true] at hkeyword
  exact ⟨by simpa using hkeyword.1, hkeyword.2⟩

theorem isWord_of_isLocation {w : List Char} (h : isLocation w = true) :
    w ≠ [] ∧ ∀ c ∈ w, isWord c = true := by
  have hword := isWord_of_mem_locationKeywords (List.contains_iff_mem.1 h)
  rwa [String.toList_ofList] at hword

/-- No keyword continues another one. -/
theorem keyword_eq_of_lead {k k' : String} (hk : k ∈ locationKeywords)
    (hk' : k' ∈ locationKeywords) (h : k.toList <+: k'.toList) : k = k' := by
  have hall : ∀ k ∈ locationKeywords, ∀ k' ∈ locationKeywords,
      k.toList.isPrefixOf k'.toList = true → k = k' := by
    decide +kernel
  exact hall k hk k' hk' (List.isPrefixOf_iff_prefix.2 h)

theorem locationAt_eq_some_iff {text rest : List Char} {keyword : String} :
    locationAt text = some (keyword, rest)
      ↔ keyword ∈ locationKeywords ∧ text = keyword.toList ++ rest := by
  have sound : ∀ {k r}, locationAt text = some (k, r) →
      k ∈ locationKeywords ∧ text = k.toList ++ r := by
    intro k r h
    obtain ⟨k', hmem, hk'⟩ := List.exists_of_findSome?_eq_some h
    obtain ⟨r', hr', heq⟩ := Option.map_eq_some_iff.1 hk'
    cases heq
    exact ⟨hmem, afterLead_eq_some_iff.1 hr'⟩
  refine ⟨sound, fun ⟨hmem, htext⟩ => ?_⟩
  -- some keyword is found, and it can only be this one
  cases hfound : locationAt text with
  | none =>
      rw [locationAt, List.findSome?_eq_none_iff] at hfound
      have hnone := hfound keyword hmem
      rw [afterLead_eq_some_iff.2 htext] at hnone
      cases hnone
  | some found =>
      obtain ⟨k, r⟩ := found
      obtain ⟨hk, hr⟩ := sound hfound
      have hprefix : k.toList <+: text := ⟨r, hr.symm⟩
      have hprefix' : keyword.toList <+: text := ⟨rest, htext.symm⟩
      have heq : k = keyword := by
        rcases List.prefix_or_prefix_of_prefix hprefix hprefix' with h | h
        · exact keyword_eq_of_lead hk hmem h
        · exact (keyword_eq_of_lead hmem hk h).symm
      subst heq
      rw [htext, List.append_cancel_left_eq] at hr
      rw [hr]

-- ==================================================== names at the end

/-- The first word of a text and what follows it, as tokens. -/
theorem tokens_first_word {c : Char} (hc : isWord c = true) (x : List Char) :
    tokens (c :: x) = (c :: x).takeWhile isWord
        :: tokens ((c :: x).dropWhile isWord)
      ∧ startsWord ((c :: x).dropWhile isWord) = false := by
  have hstop := startsWord_dropWhile (c :: x)
  refine ⟨?_, hstop⟩
  have hne : (c :: x).takeWhile isWord ≠ [] := by
    rw [List.takeWhile_cons_of_pos hc]
    exact List.cons_ne_nil _ _
  have hword : ∀ d ∈ (c :: x).takeWhile isWord, isWord d = true := fun d hd =>
    List.mem_takeWhile_imp hd
  conv_lhs =>
    rw [← List.takeWhile_append_dropWhile (p := isWord) (l := c :: x)]
  rw [tokens_append (by rw [glued, hstop, Bool.and_false]),
    tokens_word hne hword]
  rfl

/-- Where a word follows after blanks, a blank stands in front unless the
text starts with the word. -/
theorem head?_isBlank_of_trimStart {text x : List Char} {c : Char}
    (h : trimStart text = c :: x) (hc : isWord c = true)
    (hs : startsWord text = false) : text.head?.any isBlank = true := by
  cases text with
  | nil => cases h
  | cons d text =>
      cases hd : isBlank d with
      | true => exact hd
      | false =>
          rw [trimStart_cons_of_not_blank hd] at h
          cases h
          rw [startsWord_cons, hc] at hs
          cases hs

theorem nameAtEnd_eq_nameOf {afterWord : Bool} {text : List Char}
    (h : (afterWord && startsWord text) = false) :
    nameAtEnd afterWord text = nameOf (tokens text) := by
  rw [nameAtEnd, ← tokens_trimStart]
  split
  · next hbody =>
      rw [hbody]
      rfl
  · next c rest hbody =>
      rw [hbody]
      have hb : isBlank c = false := isBlank_of_trimStart_eq_cons hbody
      cases hc : isWord c with
      | false =>
          rw [Bool.not_false, Bool.or_true, if_pos rfl,
            tokens_cons_single hb (by rw [glued_singleton, hc, Bool.false_and])]
          cases tokens rest with
          | nil => simp [nameOf, hc]
          | cons t ts => rfl
      | true =>
          obtain ⟨htokens, -⟩ := tokens_first_word hc rest
          have hfree : (afterWord && !text.head?.any isBlank) = false := by
            cases afterWord with
            | false => rfl
            | true =>
                rw [head?_isBlank_of_trimStart hbody hc
                  (by rwa [Bool.true_and] at h)]
                rfl
          rw [hfree, Bool.not_true, Bool.or_false, if_neg (by simp), htokens]
          cases hrest : tokens ((c :: rest).dropWhile isWord) with
          | nil =>
              rw [if_pos (tokens_eq_nil_iff.1 hrest), nameOf,
                if_pos (by simp [List.all_takeWhile])]
          | cons t ts =>
              have hblank : ¬ isBlankText ((c :: rest).dropWhile isWord) = true := by
                rw [← tokens_eq_nil_iff, hrest]
                exact List.cons_ne_nil _ _
              rw [if_neg hblank]
              rfl

/-- A name does not continue a word. -/
theorem nameAtEnd_of_glued {text : List Char} (h : startsWord text = true) :
    nameAtEnd true text = none := by
  cases text with
  | nil => cases h
  | cons c rest =>
      rw [startsWord_cons] at h
      have hb := isBlank_of_isWord h
      rw [nameAtEnd, trimStart_cons_of_not_blank hb]
      simp [hb]

-- ================================================ suffixes at the end

/-- A token that is no word is no suffix, whatever follows it. -/
theorem suffixOf_symbol {c : Char} (hc : isWord c = false)
    (ts : List (List Char)) : suffixOf ([c] :: ts) = none := by
  have hloc : isLocation [c] = false := by
    cases h : isLocation [c] with
    | false => rfl
    | true =>
        have hword := (isWord_of_isLocation h).2 c (by simp)
        rw [hc] at hword
        cases hword
  rw [suffixOf, hloc]
  cases ts with
  | nil => simp [nameOf, hc]
  | cons t ts => rfl

/-- Of a word in front, only the whole can be a keyword with a name behind
it. -/
theorem keyword_then_name {c : Char} (hc : isWord c = true) (x : List Char) :
    ((locationAt (c :: x)).bind fun (keyword, rest) =>
        (nameAtEnd true rest).map fun name => (some keyword, name))
      = if isLocation ((c :: x).takeWhile isWord) then
          (nameOf (tokens ((c :: x).dropWhile isWord))).map
            (some (String.ofList ((c :: x).takeWhile isWord)), ·)
        else none := by
  obtain ⟨-, hstop⟩ := tokens_first_word hc x
  have hsplit := List.takeWhile_append_dropWhile (p := isWord) (l := c :: x)
  have hword : ∀ d ∈ (c :: x).takeWhile isWord, isWord d = true := fun d hd =>
    List.mem_takeWhile_imp hd
  generalize (c :: x).takeWhile isWord = w at hsplit hword ⊢
  generalize (c :: x).dropWhile isWord = r at hsplit hstop ⊢
  rw [← hsplit]
  split
  · next hloc =>
      have hat : locationAt (w ++ r) = some (String.ofList w, r) := by
        rw [locationAt_eq_some_iff, String.toList_ofList]
        exact ⟨by simpa [isLocation] using hloc, rfl⟩
      have hname : nameAtEnd true r = nameOf (tokens r) :=
        nameAtEnd_eq_nameOf (by rw [hstop, Bool.and_false])
      rw [hat, Option.bind_some, ← hname]
  · next hloc =>
      cases hat : locationAt (w ++ r) with
      | none => rfl
      | some found =>
          obtain ⟨k, rest⟩ := found
          obtain ⟨hk, heq⟩ := locationAt_eq_some_iff.1 hat
          -- the keyword is a proper part of the word, which runs on behind it
          have hrest : startsWord rest = true := by
            rcases List.append_eq_append_iff.1 heq with ⟨m, hm, hr⟩ | ⟨m, hw, hm⟩
            · cases m with
              | nil =>
                  rw [List.append_nil] at hm
                  refine absurd ?_ hloc
                  rw [isLocation, ← hm, String.ofList_toList]
                  exact List.contains_iff_mem.2 hk
              | cons d m =>
                  have hd := (isWord_of_mem_locationKeywords hk).2 d
                    (by rw [hm]; simp)
                  rw [hr, List.cons_append, startsWord_cons, hd] at hstop
                  cases hstop
            · cases m with
              | nil =>
                  rw [List.append_nil] at hw
                  refine absurd ?_ hloc
                  rw [isLocation, hw, String.ofList_toList]
                  exact List.contains_iff_mem.2 hk
              | cons d m =>
                  rw [hm, List.cons_append, startsWord_cons]
                  exact hword d (by rw [hw]; simp)
          show (nameAtEnd true rest).map _ = none
          rw [nameAtEnd_of_glued hrest]
          rfl

/-- Between tokens the suffix is read off the tokens. -/
theorem suffixAtEnd_eq_suffixOf {afterWord : Bool} {text : List Char}
    (h : (afterWord && startsWord text) = false) :
    suffixAtEnd afterWord text = suffixOf (tokens text) := by
  rw [suffixAtEnd, nameAtEnd_eq_nameOf h, ← tokens_trimStart]
  cases hbody : trimStart text with
  | nil =>
      have hat : locationAt [] = none := by decide +kernel
      rw [hat]
      simp [suffixOf, nameOf]
  | cons c x =>
      have hb : isBlank c = false := isBlank_of_trimStart_eq_cons hbody
      cases hc : isWord c with
      | false =>
          have hat : locationAt (c :: x) = none := by
            cases hat : locationAt (c :: x) with
            | none => rfl
            | some found =>
                obtain ⟨k, r⟩ := found
                obtain ⟨hk, heq⟩ := locationAt_eq_some_iff.1 hat
                obtain ⟨hne, hword⟩ := isWord_of_mem_locationKeywords hk
                cases hlist : k.toList with
                | nil => exact absurd hlist hne
                | cons d ds =>
                    rw [hlist] at heq hword
                    cases heq
                    rw [hword c (List.mem_cons_self ..)] at hc
                    cases hc
          have hg : glued [c] x = false := by
            rw [glued_singleton, hc, Bool.false_and]
          rw [hat, tokens_cons_single hb hg, suffixOf_symbol hc]
          cases tokens x with
          | nil => simp [nameOf, hc]
          | cons t ts => simp [nameOf]
      | true =>
          have hbounded : (!afterWord || text.head?.any isBlank) = true := by
            cases afterWord with
            | false => rfl
            | true =>
                rw [head?_isBlank_of_trimStart hbody hc
                  (by rwa [Bool.true_and] at h)]
                rfl
          rw [hbounded, if_pos rfl, keyword_then_name hc,
            (tokens_first_word hc x).1, suffixOf]

/-- Inside a word there is no suffix. -/
theorem suffixAtEnd_of_glued {text : List Char} (h : startsWord text = true) :
    suffixAtEnd true text = none := by
  rw [suffixAtEnd, nameAtEnd_of_glued h]
  cases text with
  | nil => cases h
  | cons c text =>
      rw [startsWord_cons] at h
      simp [isBlank_of_isWord h]

-- ========================================== where the type stops growing

/-- The slot is read from the text, and `rest` is its suffix: the type ends
at the first cut, not inside a word, behind which a suffix follows. -/
structure Reads (text : List Char) (slot : Slot) (rest : List Char) : Prop where
  split : trimStart text = slot.typeText ++ rest
  ne_nil : slot.typeText ≠ []
  typeChars : ∀ c ∈ slot.typeText, isTypeChar c = true
  parted : glued slot.typeText rest = false
  suffix : suffixOf (tokens rest) = some (slot.location, slot.name)
  shortest : ∀ p q, slot.typeText = p ++ q → p ≠ [] → q ≠ [] →
    glued p (q ++ rest) = false → suffixOf (tokens (q ++ rest)) = none

theorem grow_eq_some {before : List Char} {last : Char} {text : List Char}
    {slot : Slot} (h : grow before last text = some slot) :
    ∃ more rest, text = more ++ rest
      ∧ slot.typeText = before.reverse ++ last :: more
      ∧ (∀ c ∈ last :: more, isTypeChar c = true)
      ∧ glued (last :: more) rest = false
      ∧ suffixOf (tokens rest) = some (slot.location, slot.name)
      ∧ ∀ p q, more = p ++ q → q ≠ [] → glued (last :: p) (q ++ rest) = false →
          suffixOf (tokens (q ++ rest)) = none := by
  fun_induction grow before last text with
  | case1 before last hlast =>
      cases h
      refine ⟨[], [], rfl, by simp, by simpa using hlast, glued_nil_right _, rfl, ?_⟩
      intro p q hpq hq
      exact absurd (List.append_eq_nil_iff.1 hpq.symm).2 hq
  | case2 before last hlast => cases h
  | case3 before last c rest hlast location name hsuffix =>
      cases h
      have hg : glued [last] (c :: rest) = false := by
        rw [glued_singleton]
        cases hl : isWord last with
        | false => rfl
        | true =>
            cases hc : startsWord (c :: rest) with
            | false => rfl
            | true =>
                rw [hl, suffixAtEnd_of_glued hc] at hsuffix
                cases hsuffix
      rw [suffixAtEnd_eq_suffixOf (glued_singleton last _ ▸ hg)] at hsuffix
      refine ⟨[], c :: rest, rfl, by simp, by simpa using hlast, hg, hsuffix, ?_⟩
      intro p q hpq hq
      exact absurd (List.append_eq_nil_iff.1 hpq.symm).2 hq
  | case4 before last c rest hlast hsuffix ih =>
      obtain ⟨more, rest', rfl, htype, hchars, hg, hsuf, hshort⟩ := ih h
      refine ⟨c :: more, rest', rfl, ?_, ?_, ?_, hsuf, ?_⟩
      · rw [htype, List.reverse_cons, List.append_assoc]
        rfl
      · intro d hd
        rcases List.mem_cons.1 hd with rfl | hd
        · exact hlast
        · exact hchars d hd
      · rwa [glued_cons_of_ne_nil (List.cons_ne_nil c more)]
      · intro p q hpq hq hcut
        cases p with
        | nil =>
            rw [List.nil_append] at hpq
            subst hpq
            rw [← suffixAtEnd_eq_suffixOf hcut]
            exact hsuffix
        | cons d p =>
            rw [List.cons_append, List.cons.injEq] at hpq
            obtain ⟨rfl, hmore⟩ := hpq
            rw [glued_cons_of_ne_nil (List.cons_ne_nil c p)] at hcut
            exact hshort p q hmore hq hcut
  | case5 before last c rest hlast => cases h

/-- A type of type characters stops somewhere, at the end of the text if
nowhere else. -/
theorem exists_grow (text : List Char) :
    ∀ before last, (∀ c ∈ last :: text, isTypeChar c = true) →
      ∃ slot, grow before last text = some slot := by
  induction text with
  | nil =>
      intro before last h
      rw [grow, if_pos (h last (List.mem_cons_self ..))]
      exact ⟨_, rfl⟩
  | cons c rest ih =>
      intro before last h
      rw [grow, if_pos (h last (List.mem_cons_self ..))]
      cases suffixAtEnd (isWord last) (c :: rest) with
      | some found => exact ⟨_, rfl⟩
      | none =>
          exact ih (last :: before) c fun d hd => h d (List.mem_cons_of_mem _ hd)

/-- A text with a token that is read as a slot. -/
theorem reads_of_read {text : List Char} {slot : Slot}
    (h : read text = some slot) (ht : tokens text ≠ []) :
    ∃ rest, Reads text slot rest := by
  rw [read] at h
  cases hbody : trimStart text with
  | nil => exact absurd (trimStart_eq_nil_iff.1 hbody) ht
  | cons c x =>
      rw [hbody] at h
      obtain ⟨more, rest, rfl, htype, hchars, hg, hsuf, hshort⟩ := grow_eq_some h
      rw [List.reverse_nil, List.nil_append] at htype
      refine ⟨rest, ?_, ?_, ?_, ?_, hsuf, ?_⟩
      · rw [hbody, htype]
        rfl
      · rw [htype]
        exact List.cons_ne_nil _ _
      · rwa [htype]
      · rwa [htype]
      · intro p q hpq hp hq hcut
        rw [htype] at hpq
        cases p with
        | nil => exact absurd rfl hp
        | cons d p =>
            rw [List.cons_append, List.cons.injEq] at hpq
            obtain ⟨rfl, hmore⟩ := hpq
            exact hshort p q hmore hq hcut

/-- A text of type characters is read as a slot. -/
theorem exists_read {text : List Char} (ht : tokens text ≠ [])
    (h : ∀ c ∈ text, isTypeChar c = true) : ∃ slot, read text = some slot := by
  rw [read]
  cases hbody : trimStart text with
  | nil => exact absurd (trimStart_eq_nil_iff.1 hbody) ht
  | cons c x =>
      refine exists_grow x [] c fun d hd => h d ?_
      rw [← hbody] at hd
      exact (List.dropWhile_subset isBlank) hd

-- ================================================= slots by their tokens

namespace Reads

variable {text rest : List Char} {slot : Slot}

theorem tokens_eq (h : Reads text slot rest) :
    tokens text = tokens slot.typeText ++ tokens rest := by
  rw [← tokens_trimStart, h.split, tokens_append h.parted]

/-- The type starts with its first token. -/
theorem head_not_blank (h : Reads text slot rest) :
    ∃ c x, slot.typeText = c :: x ∧ isBlank c = false := by
  cases hx : slot.typeText with
  | nil => exact absurd hx h.ne_nil
  | cons c x =>
      have hsplit := h.split
      rw [hx, List.cons_append] at hsplit
      exact ⟨c, x, rfl, isBlank_of_trimStart_eq_cons hsplit⟩

theorem tokens_typeText_ne_nil (h : Reads text slot rest) :
    tokens slot.typeText ≠ [] := by
  obtain ⟨c, x, hx, hc⟩ := h.head_not_blank
  rw [ne_eq, tokens_eq_nil_iff, hx, isBlankText, List.all_cons, hc]
  simp

/-- The type ends with its last token: without a blank at its end it would
have stopped before. -/
theorem endsBlank_typeText (h : Reads text slot rest) :
    endsBlank slot.typeText = false := by
  cases hb : endsBlank slot.typeText with
  | false => rfl
  | true =>
      obtain ⟨c, x, hx, hc⟩ := h.head_not_blank
      rcases List.eq_nil_or_concat slot.typeText with hnil | ⟨p, b, hp⟩
      · exact absurd hnil h.ne_nil
      · rw [List.concat_eq_append] at hp
        rw [hp, endsBlank, List.getLast?_concat, Option.any_some] at hb
        have hpne : p ≠ [] := by
          rintro rfl
          rw [hp] at hx
          cases hx
          rw [hb] at hc
          cases hc
        have hnone := h.shortest p [b] hp hpne (List.cons_ne_nil _ _)
          (glued_cons_blank hb p rest)
        rw [List.singleton_append, tokens_cons_blank hb, h.suffix] at hnone
        cases hnone

/-- No cut inside the type leaves a suffix behind it. -/
theorem suffixOf_of_cut (h : Reads text slot rest) {A m : List (List Char)}
    (htype : tokens slot.typeText = A ++ m) (hA : A ≠ []) (hm : m ≠ []) :
    suffixOf (m ++ tokens rest) = none := by
  obtain ⟨p, q, hpq, hcut, rfl, rfl⟩ := exists_cut htype
  have hpne : p ≠ [] := by
    rintro rfl
    exact hA rfl
  have hqne : q ≠ [] := by
    rintro rfl
    exact hm rfl
  have hcut' : glued p (q ++ rest) = false := by
    rw [glued, startsWord_append_of_ne_nil hqne]
    exact hcut
  have hparted : glued q rest = false := by
    have h := h.parted
    rw [hpq] at h
    rwa [glued, endsWord, List.getLast?_append_of_ne_nil p hqne] at h
  rw [← tokens_append hparted]
  exact h.shortest p q hpq hpne hqne hcut'

/-- Of two texts with the same tokens, neither has the longer type: the
other one would have stopped there. -/
theorem not_longer {text' rest' : List Char} {slot' : Slot}
    (h : Reads text slot rest) (h' : Reads text' slot' rest')
    {m : List (List Char)}
    (htype : tokens slot.typeText = tokens slot'.typeText ++ m)
    (hrest : tokens rest' = m ++ tokens rest) : m = [] := by
  by_contra hm
  have hnone := h.suffixOf_of_cut htype h'.tokens_typeText_ne_nil hm
  rw [← hrest, h'.suffix] at hnone
  cases hnone

/-- What is read depends on the tokens of the text alone, up to the
spelling of the type. -/
theorem congr {text' rest' : List Char} {slot' : Slot}
    (h : Reads text slot rest) (h' : Reads text' slot' rest')
    (htokens : tokens text = tokens text') :
    tokens slot.typeText = tokens slot'.typeText
      ∧ slot.location = slot'.location ∧ slot.name = slot'.name := by
  rw [h.tokens_eq, h'.tokens_eq] at htokens
  have hcut : tokens slot.typeText = tokens slot'.typeText
      ∧ tokens rest = tokens rest' := by
    rcases List.append_eq_append_iff.1 htokens with ⟨m, ht, hr⟩ | ⟨m, ht, hr⟩
    · rw [h'.not_longer h ht hr, List.append_nil] at ht
      rw [ht, List.append_cancel_left_eq] at htokens
      exact ⟨ht.symm, htokens⟩
    · rw [h.not_longer h' ht hr, List.append_nil] at ht
      rw [ht, List.append_cancel_left_eq] at htokens
      exact ⟨ht, htokens⟩
  have hsuffix := h.suffix
  rw [hcut.2, h'.suffix, Option.some.injEq, Prod.mk.injEq] at hsuffix
  exact ⟨hcut.1, hsuffix.1.symm, hsuffix.2.symm⟩

/-- The type of a text without other blanks than spaces has none either. -/
theorem onlySpaces_typeText (h : Reads text slot rest) (htext : OnlySpaces text) :
    OnlySpaces slot.typeText := by
  intro c hc
  refine htext c (List.dropWhile_subset isBlank ?_)
  show c ∈ trimStart text
  rw [h.split]
  exact List.mem_append_left _ hc

end Reads

-- ===================================================== writing a slot

/-- The type in canonical spelling, then location and name. -/
def written (slot : Slot) : List Char :=
  TypeName.canonicalChars slot.typeText
    ++ (spaced slot.location).toList ++ (spaced slot.name).toList

theorem toList_spaced_some (w : String) :
    (spaced (some w)).toList = ' ' :: w.toList := by
  rw [spaced, String.toList_append]
  rfl

/-- Every token has a character. -/
theorem ne_nil_of_mem_tokens {x t : List Char} (h : t ∈ tokens x) : t ≠ [] := by
  cases isToken_of_mem_tokens h with
  | word hne hw => exact hne
  | symbol hc => exact List.cons_ne_nil _ _

/-- A name is written with the tokens it was read from. -/
theorem tokens_spaced_name {ts : List (List Char)} {name : Option String}
    (hts : ∀ t ∈ ts, t ≠ []) (h : nameOf ts = some name) :
    tokens (spaced name).toList = ts := by
  cases ts with
  | nil =>
      cases h
      rfl
  | cons w ts =>
      cases ts with
      | cons v vs => cases h
      | nil =>
          rw [nameOf] at h
          split at h
          · next hw =>
              cases h
              rw [toList_spaced_some, String.toList_ofList,
                tokens_cons_blank isBlank_space]
              exact tokens_word (hts w (List.mem_cons_self ..))
                (List.all_eq_true.1 hw)
          · cases h

/-- `spaced` never continues a word. -/
theorem glued_spaced (x : List Char) (word : Option String) :
    glued x (spaced word).toList = false := by
  cases word with
  | none => exact glued_nil_right x
  | some w =>
      rw [toList_spaced_some]
      exact glued_cons_blank isBlank_space x w.toList

/-- A suffix is written with the tokens it was read from. -/
theorem tokens_spaced_suffix {ts : List (List Char)}
    {location name : Option String} (hts : ∀ t ∈ ts, t ≠ [])
    (h : suffixOf ts = some (location, name)) :
    tokens (spaced location).toList ++ tokens (spaced name).toList = ts := by
  cases ts with
  | nil =>
      cases h
      rfl
  | cons w ts =>
      rw [suffixOf] at h
      have hrest : ∀ t ∈ ts, t ≠ [] := fun t ht => hts t (List.mem_cons_of_mem _ ht)
      have hplain : (nameOf (w :: ts)).map (none, ·) = some (location, name) →
          tokens (spaced location).toList ++ tokens (spaced name).toList
            = w :: ts := by
        intro hn
        obtain ⟨n, hn, heq⟩ := Option.map_eq_some_iff.1 hn
        cases heq
        rw [tokens_spaced_name hts hn]
        rfl
      split at h
      · next hloc =>
          cases hn : nameOf ts with
          | none =>
              rw [hn] at h
              exact hplain h
          | some n =>
              rw [hn] at h
              cases h
              have hword := isWord_of_isLocation hloc
              have hw : tokens (spaced (some (String.ofList w))).toList = [w] :=
                tokens_spaced_name
                  (fun t ht => hts t (List.mem_singleton.1 ht ▸ List.mem_cons_self ..))
                  (by rw [nameOf, if_pos (List.all_eq_true.2 hword.2)])
              rw [hw, tokens_spaced_name hrest hn]
              rfl
      · exact hplain h

/-- A slot is written with the tokens it was read from. -/
theorem Reads.tokens_written {text rest : List Char} {slot : Slot}
    (h : Reads text slot rest) : tokens slot.written = tokens text := by
  rw [written, tokens_append (glued_spaced _ _),
    tokens_append (glued_spaced _ _), TypeName.tokens_canonicalChars,
    List.append_assoc, h.tokens_eq,
    tokens_spaced_suffix (fun t ht => ne_nil_of_mem_tokens ht) h.suffix]

-- ==================================================== reading it back

theorem isWord_of_nameOf {ts : List (List Char)} {name : Option String}
    (h : nameOf ts = some name) : ∀ t ∈ ts, ∀ c ∈ t, isWord c = true := by
  intro t ht c hc
  cases ts with
  | nil => cases ht
  | cons w ts =>
      cases ts with
      | cons v vs => cases h
      | nil =>
          rw [List.mem_singleton] at ht
          subst ht
          rw [nameOf] at h
          split at h
          · next hw => exact List.all_eq_true.1 hw c hc
          · cases h

/-- A suffix has words only. -/
theorem isWord_of_suffixOf {ts : List (List Char)}
    {suffix : Option String × Option String} (h : suffixOf ts = some suffix) :
    ∀ t ∈ ts, ∀ c ∈ t, isWord c = true := by
  cases ts with
  | nil => intro t ht; cases ht
  | cons w ts =>
      have hplain : (nameOf (w :: ts)).map (none, ·) = some suffix →
          ∀ t ∈ w :: ts, ∀ c ∈ t, isWord c = true := by
        intro hn
        obtain ⟨n, hn, -⟩ := Option.map_eq_some_iff.1 hn
        exact isWord_of_nameOf hn
      rw [suffixOf] at h
      split at h
      · next hloc =>
          cases hn : nameOf ts with
          | none =>
              rw [hn] at h
              exact hplain h
          | some n =>
              have hword := isWord_of_isLocation hloc
              intro t ht
              rcases List.mem_cons.1 ht with rfl | ht
              · exact hword.2
              · exact isWord_of_nameOf hn t ht
      · exact hplain h

/-- The characters of a slot are type characters, in its suffix too. -/
theorem Reads.isTypeChar_of_mem {text rest : List Char} {slot : Slot}
    (h : Reads text slot rest) {c : Char} (hc : c ∈ text) :
    isTypeChar c = true := by
  cases hb : isBlank c with
  | true => simp [isTypeChar, hb]
  | false =>
      -- a character that is not blank survives trimming
      have hmem : c ∈ trimStart text :=
        mem_of_tokens_eq (tokens_trimStart text).symm hc hb
      rw [h.split, List.mem_append] at hmem
      rcases hmem with hmem | hmem
      · exact h.typeChars c hmem
      · obtain ⟨t, ht, hct⟩ := exists_mem_token hmem hb
        simp [isTypeChar, isWord_of_suffixOf h.suffix t ht c hct]

/-- A respelled slot is read as the same slot, up to the spelling of its
type. -/
theorem Reads.respelled {text rest : List Char} {slot : Slot}
    (h : Reads text slot rest) {text' : List Char}
    (htokens : tokens text' = tokens text) :
    ∃ slot' rest', read text' = some slot' ∧ Reads text' slot' rest'
      ∧ tokens slot'.typeText = tokens slot.typeText
      ∧ slot'.location = slot.location ∧ slot'.name = slot.name := by
  have hne : tokens text' ≠ [] := by
    rw [htokens, h.tokens_eq]
    exact List.append_ne_nil_of_left_ne_nil h.tokens_typeText_ne_nil _
  obtain ⟨slot', hread⟩ := exists_read hne fun c hc => by
    cases hb : isBlank c with
    | true => simp [isTypeChar, hb]
    | false => exact h.isTypeChar_of_mem (mem_of_tokens_eq htokens hc hb)
  obtain ⟨rest', hreads⟩ := reads_of_read hread hne
  exact ⟨slot', rest', hread, hreads, hreads.congr h htokens⟩

/-- What is left of a text when its first piece is trimmed in front. -/
theorem trimStart_append {x : List Char} (hx : tokens x ≠ [])
    (y : List Char) : trimStart (x ++ y) = trimStart x ++ y := by
  have hne : ¬ (trimStart x).isEmpty = true := by
    rw [List.isEmpty_iff, trimStart_eq_nil_iff]
    exact hx
  rw [trimStart] at hne
  rw [trimStart, List.dropWhile_append, if_neg hne, trimStart]

/-- Behind a written type that has a location or a name, the type is found
again as it was written, without the blanks at its ends. -/
theorem Reads.typeText_of_written {text rest text' rest' : List Char}
    {slot slot' : Slot} (h : Reads text slot rest)
    (h' : Reads text' slot' rest') {suffix : List Char}
    (htext : text' = TypeName.canonicalChars slot.typeText ++ ' ' :: suffix)
    (htokens : tokens slot'.typeText = tokens slot.typeText) :
    slot'.typeText = trim (TypeName.canonicalChars slot.typeText) := by
  have hcanon : tokens (TypeName.canonicalChars slot.typeText) ≠ [] := by
    rw [TypeName.tokens_canonicalChars]
    exact h.tokens_typeText_ne_nil
  obtain ⟨b, hb, hcut⟩ :=
    trimEnd_cut (trimStart (TypeName.canonicalChars slot.typeText))
  have hsplit : slot'.typeText ++ rest'
      = trim (TypeName.canonicalChars slot.typeText) ++ (b ++ ' ' :: suffix) := by
    rw [← h'.split, htext, trimStart_append hcanon, hcut, List.append_assoc]
    rfl
  -- blanks follow the written type, so it is not cut inside a word
  have hparted : ∀ x, glued x (b ++ ' ' :: suffix) = false := by
    intro x
    cases b with
    | nil => exact glued_cons_blank isBlank_space x suffix
    | cons d b =>
        rw [isBlankText, List.all_cons, Bool.and_eq_true] at hb
        exact glued_cons_blank hb.1 x _
  refine cut_unique hsplit h'.parted (hparted _) h'.endsBlank_typeText
    (TypeName.trim_ends _).2 ?_
  rw [tokens_trim, TypeName.tokens_canonicalChars, htokens]

end ContractDocs.Slot

namespace ContractDocs

open Text

-- ========================================================= parameters

/-- A parameter that was read from a collapsed text has the tokens of that
text, and is read back from its own writing, collapsed. -/
theorem Param.read_collapse_render {entry : List Char} {param : Param}
    (hsp : OnlySpaces entry) (hne : tokens entry ≠ [])
    (h : Param.read (String.ofList entry) = some param) :
    tokens param.render.toList = tokens entry
      ∧ Param.read (String.ofList (collapse param.render.toList)) = some param := by
  rw [Param.read, String.toList_ofList] at h
  obtain ⟨slot, hslot, rfl⟩ := Option.map_eq_some_iff.1 h
  obtain ⟨rest, hreads⟩ := Slot.reads_of_read hslot hne
  have hwritten : (Param.ofText (String.ofList slot.typeText) slot.location
      slot.name).render.toList = slot.written := by
    rw [Param.render, String.toList_append, String.toList_append,
      Param.ofText, TypeName.canonical, String.toList_ofList,
      String.toList_ofList, Slot.written]
  rw [hwritten]
  refine ⟨hreads.tokens_written, ?_⟩
  have htokens : tokens (collapse slot.written) = tokens entry := by
    rw [tokens_collapse, hreads.tokens_written]
  obtain ⟨slot', rest', hread, hreads', htype, hloc, hname⟩ :=
    hreads.respelled htokens
  -- both types are cut from texts without other blanks than spaces
  have hspell : TypeName.canonicalChars slot'.typeText
      = TypeName.canonicalChars slot.typeText :=
    TypeName.canonicalChars_eq_of_tokens_eq
      (hreads'.onlySpaces_typeText (onlySpaces_collapse _))
      (hreads.onlySpaces_typeText hsp) htype
  rw [Param.read, String.toList_ofList, hread, Option.map_some, Param.ofText,
    Param.ofText, TypeName.canonical, TypeName.canonical,
    String.toList_ofList, String.toList_ofList, hspell, hloc, hname]

end ContractDocs
