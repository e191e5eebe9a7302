/-
Where the tags of a documentation text begin.

# Sites

A site is a position at which a tag could begin: the beginning of the text
or behind a blank, with an `@`, a name and a blank in front of it (`Site`).
Two sites never overlap (`Site.stop_le_start`), but one may stand directly
behind the other, so that the blank that closes the first is also the blank
in front of the second.

# The search

Tags are found by searching for the first site, and then again behind it
(`Found`). A search takes the blank in front of an `@` along with it, so it
needs that blank for itself: a site directly behind a tag is out of its
reach (`Found.mem_iff`). In a row of sites, each directly behind the one
before, every other one begins a tag, the first one included
(`tags_begin_at_even_sites`); the others stand at the front of a payload.
-/
import ContractDocs.Docs.NatSpec
import ContractDocs.Proofs.Text.Tokens
import Mathlib.Algebra.Ring.Parity
import Mathlib.Data.List.TakeWhile

namespace ContractDocs.Cut

open Text

-- =============================================================== heads

/-- What a tag begins with: an `@`, a name and the blank behind it. -/
@[ext]
structure Head where
  name : List Char
  blank : Char
  named : name ≠ []
  word : ∀ c ∈ name, isWord c = true
  closed : isBlank blank = true

namespace Head

/-- The head as it is written. -/
def text (head : Head) : List Char :=
  '@' :: (head.name ++ [head.blank])

theorem length_text (head : Head) : head.text.length = head.name.length + 2 := by
  simp [text]

/-- The `@` is the only one. -/
theorem at_not_mem (head : Head) : '@' ∉ head.name ++ [head.blank] := by
  intro h
  rcases List.mem_append.1 h with h | h
  · exact absurd (head.word '@' h) (by decide)
  · rw [List.mem_singleton] at h
    exact absurd (h ▸ head.closed) (by decide)

end Head

theorem tagName?_head (head : Head) (after : List Char) :
    tagName? (head.name ++ head.blank :: after)
      = some (head.name, head.blank, after) := by
  have hstop : startsWord (head.blank :: after) = false := by
    rw [startsWord_cons, isWord_of_isBlank head.closed]
  obtain ⟨htake, hdrop⟩ := first_word_append head.word hstop
  simp [tagName?, htake, hdrop, head.named, head.closed]

theorem exists_head_of_tagName? {text name after : List Char} {blank : Char}
    (h : tagName? text = some (name, blank, after)) :
    ∃ head : Head, head.name = name ∧ head.blank = blank
      ∧ text = head.name ++ head.blank :: after := by
  have hsplit := List.takeWhile_append_dropWhile (p := isWord) (l := text)
  simp only [tagName?] at h
  split at h
  · next c rest hdrop =>
    split at h
    · next hhead =>
      rw [Bool.and_eq_true, Bool.not_eq_true', List.isEmpty_eq_false_iff] at hhead
      simp only [Option.some.injEq, Prod.mk.injEq] at h
      obtain ⟨rfl, rfl, rfl⟩ := h
      refine ⟨⟨_, _, hhead.1, fun d hd => List.mem_takeWhile_imp hd, hhead.2⟩,
        rfl, rfl, ?_⟩
      rw [← hdrop, hsplit]
    · cases h
  · cases h

-- ======================================================= the first site

/-- A tag may begin behind this text. `first` says whether it may where the
text is empty. -/
def opens (first : Bool) (before : List Char) : Bool :=
  (before.getLast?.map isBlank).getD first

theorem opens_cons (first : Bool) (c : Char) (before : List Char) :
    opens first (c :: before) = opens (isBlank c) before := by
  cases before with
  | nil => rfl
  | cons d before => simp [opens, List.getLast?_cons]

theorem opens_append_of_ne_nil {first : Bool} {lead before : List Char}
    (hne : before ≠ []) : opens first (lead ++ before) = opens false before := by
  obtain ⟨x, c, rfl⟩ := (List.eq_nil_or_concat before).resolve_left hne
  simp [opens]

/-- Where a tag may begin and a head stands, a tag is found, there or
before. -/
theorem exists_nextTag? {before after : List Char} {head : Head} :
    ∀ {first : Bool}, opens first before = true →
      ∃ lead tag, nextTag? first (before ++ (head.text ++ after)) = some (lead, tag)
        ∧ lead.length ≤ before.length := by
  induction before with
  | nil =>
      intro first hfirst
      have hfirst : first = true := hfirst
      refine ⟨[], (head.name, head.blank, after), ?_, Nat.le_refl _⟩
      simp [Head.text, nextTag?, hfirst, tagName?_head]
  | cons c before ih =>
      intro first hopens
      rw [opens_cons] at hopens
      obtain ⟨lead, tag, hnext, hlen⟩ := ih hopens
      rw [List.cons_append, nextTag?, hnext]
      split
      · split
        · exact ⟨[], _, rfl, Nat.zero_le _⟩
        · exact ⟨c :: lead, tag, rfl, Nat.succ_le_succ hlen⟩
      · exact ⟨c :: lead, tag, rfl, Nat.succ_le_succ hlen⟩

/-- The first tag begins right here, or is the first of what follows. -/
theorem nextTag?_cons {first : Bool} {c : Char} {text before : List Char}
    {tag : List Char × Char × List Char}
    (h : nextTag? first (c :: text) = some (before, tag)) :
    (first = true ∧ c = '@' ∧ before = [] ∧ tagName? text = some tag)
      ∨ ∃ lead, before = c :: lead ∧ nextTag? (isBlank c) text = some (lead, tag) := by
  rw [nextTag?] at h
  by_cases hhere : (first && decide (c = '@')) = true
  · rw [if_pos hhere] at h
    rw [Bool.and_eq_true, decide_eq_true_eq] at hhere
    cases htag : tagName? text with
    | some found =>
        rw [htag] at h
        cases h
        exact .inl ⟨hhere.1, hhere.2, rfl, rfl⟩
    | none =>
        rw [htag] at h
        obtain ⟨⟨lead, found⟩, hnext, heq⟩ := Option.map_eq_some_iff.1 h
        cases heq
        exact .inr ⟨lead, rfl, hnext⟩
  · rw [if_neg hhere] at h
    obtain ⟨⟨lead, found⟩, hnext, heq⟩ := Option.map_eq_some_iff.1 h
    cases heq
    exact .inr ⟨lead, rfl, hnext⟩

/-- A tag that is found begins where one may, and has a head. -/
theorem exists_head_of_nextTag? {text name after : List Char} {blank : Char} :
    ∀ {first : Bool} {before : List Char},
      nextTag? first text = some (before, name, blank, after) →
      ∃ head : Head, head.name = name ∧ head.blank = blank
        ∧ opens first before = true ∧ text = before ++ (head.text ++ after) := by
  induction text with
  | nil =>
      intro first before h
      cases h
  | cons c text ih =>
      intro first before h
      rcases nextTag?_cons h with ⟨rfl, rfl, rfl, htag⟩ | ⟨lead, rfl, hnext⟩
      · obtain ⟨head, hname, hblank, rfl⟩ := exists_head_of_tagName? htag
        exact ⟨head, hname, hblank, rfl, by simp [Head.text]⟩
      · obtain ⟨head, hname, hblank, hopens, rfl⟩ := ih hnext
        exact ⟨head, hname, hblank, by rw [opens_cons, hopens], rfl⟩

-- =============================================================== sites

/-- A position of a text where a tag could begin: a head, at the beginning
of the text or behind a blank. -/
@[ext]
structure Site (doc : List Char) where
  before : List Char
  head : Head
  after : List Char
  ready : opens true before = true
  whole : doc = before ++ (head.text ++ after)

namespace Site

variable {doc : List Char} {p q : Site doc}

/-- The position of the `@`. -/
def start (p : Site doc) : Nat :=
  p.before.length

/-- The position behind the blank that closes the name. -/
def stop (p : Site doc) : Nat :=
  p.start + p.head.text.length

theorem start_lt_stop (p : Site doc) : p.start < p.stop := by
  rw [stop, Head.length_text]
  omega

theorem stop_le_length (p : Site doc) : p.stop ≤ doc.length := by
  have hlen := congrArg List.length p.whole
  simp only [List.length_append] at hlen
  rw [stop, start]
  omega

/-- There is one site at most in a position. -/
theorem eq_of_start (h : p.start = q.start) : p = q := by
  obtain ⟨hbefore, hrest⟩ := List.append_inj (p.whole.symm.trans q.whole) h
  have hname : p.head.name ++ p.head.blank :: p.after
      = q.head.name ++ q.head.blank :: q.after := by
    simpa [Head.text] using hrest
  have htag : some (p.head.name, p.head.blank, p.after)
      = some (q.head.name, q.head.blank, q.after) := by
    rw [← tagName?_head, ← tagName?_head, hname]
  simp only [Option.some.injEq, Prod.mk.injEq] at htag
  exact Site.ext hbefore (Head.ext htag.1 htag.2.1) htag.2.2

theorem drop_start (p : Site doc) : doc.drop p.start = p.head.text ++ p.after :=
  (congrArg (List.drop p.start) p.whole).trans List.drop_left

theorem drop_stop (p : Site doc) : doc.drop p.stop = p.after := by
  rw [stop, ← List.drop_drop, drop_start, List.drop_left]

/-- Sites do not overlap: the head of one has no `@` for another. -/
theorem stop_le_start (h : p.start < q.start) : p.stop ≤ q.start := by
  by_contra hlt
  obtain ⟨k, hk⟩ := Nat.exists_eq_add_of_lt h
  have hin : k < (p.head.name ++ [p.head.blank]).length := by
    rw [stop, Head.length_text] at hlt
    rw [List.length_append, List.length_singleton]
    omega
  have hat : doc[q.start]? = some '@' := by
    rw [← Nat.add_zero q.start, ← List.getElem?_drop, drop_start]
    rfl
  rw [hk, Nat.add_assoc, ← List.getElem?_drop, drop_start, Head.text, List.cons_append,
    List.getElem?_cons_succ, List.getElem?_append_left hin] at hat
  exact p.head.at_not_mem (List.mem_of_getElem? hat)

theorem eq_of_stop (h : p.stop = q.stop) : p = q := by
  rcases Nat.lt_trichotomy p.start q.start with hlt | heq | hlt
  · have := stop_le_start hlt
    have := q.start_lt_stop
    omega
  · exact eq_of_start heq
  · have := stop_le_start hlt
    have := p.start_lt_stop
    omega

-- ========================================================== the search

/-- In reach of a search from `origin` on: the blank in front of the `@` is
not in front of `origin`. -/
def Behind (p : Site doc) (origin : Nat) : Prop :=
  origin = 0 ∨ origin < p.start

theorem Behind.le_start {origin : Nat} (h : p.Behind origin) : origin ≤ p.start := by
  unfold Behind at h
  omega

/-- A site in reach stands in what is left of the text. -/
theorem Behind.exists_rest {lead text : List Char} (hdoc : doc = lead ++ text)
    (h : p.Behind lead.length) :
    ∃ x, p.before = lead ++ x ∧ opens lead.isEmpty x = true
      ∧ text = x ++ (p.head.text ++ p.after) := by
  have hsplit := hdoc.symm.trans p.whole
  obtain ⟨x, hx⟩ : lead <+: p.before :=
    List.prefix_of_prefix_length_le (List.prefix_append lead text)
      (hsplit ▸ List.prefix_append p.before _) h.le_start
  refine ⟨x, hx.symm, ?_, ?_⟩
  · cases lead with
    | nil =>
        rw [List.nil_append] at hx
        exact hx ▸ p.ready
    | cons c lead =>
        have hne : x ≠ [] := by
          rintro rfl
          rw [List.append_nil] at hx
          rw [Behind, start, ← hx, List.length_cons] at h
          omega
        have hready := p.ready
        rwa [← hx, opens_append_of_ne_nil hne] at hready
  · rw [← hx, List.append_assoc] at hsplit
    exact List.append_cancel_left hsplit

end Site

/-- The sites that begin a tag, for a search from `origin` on: the first in
reach, then those of a search from behind it. -/
inductive Found (doc : List Char) : Nat → List (Site doc) → Prop
  | done {origin : Nat} (none : ∀ p : Site doc, ¬ p.Behind origin) :
      Found doc origin []
  | next {origin : Nat} {p : Site doc} {ps : List (Site doc)}
      (behind : p.Behind origin)
      (first : ∀ q : Site doc, q.Behind origin → p.start ≤ q.start)
      (rest : Found doc p.stop ps) : Found doc origin (p :: ps)

/-- The part of a text from one position up to another. -/
def slice (doc : List Char) (start stop : Nat) : List Char :=
  (doc.drop start).take (stop - start)

/-- A text from `origin` on, cut at sites: a payload is the slice from behind
the head up to the next site, or up to the end. -/
def ofSites (doc : List Char) (origin : Nat) : List (Site doc) → Cut
  | [] => ⟨slice doc origin doc.length, []⟩
  | p :: ps =>
    let rest := ofSites doc p.stop ps
    ⟨slice doc origin p.start, ⟨p.head.name, p.head.blank, rest.leading⟩ :: rest.tags⟩

/-- A text is cut at the sites that are found in it. -/
theorem exists_found {doc : List Char} (text : List Char) {lead : List Char}
    (hdoc : doc = lead ++ text) :
    ∃ ps, Found doc lead.length ps
      ∧ read lead.isEmpty text = ofSites doc lead.length ps := by
  rw [read]
  split
  · next hnext =>
    refine ⟨[], .done fun p hp => ?_, ?_⟩
    · obtain ⟨x, -, hopens, rfl⟩ := hp.exists_rest hdoc
      obtain ⟨before, tag, hsome, -⟩ := exists_nextTag? hopens
      rw [hsome] at hnext
      cases hnext
    · simp [ofSites, slice, hdoc]
  · next before name blank after hnext =>
    obtain ⟨head, rfl, rfl, hopens, htext⟩ := exists_head_of_nextTag? hnext
    have hready : opens true (lead ++ before) = true := by
      cases lead with
      | nil => exact hopens
      | cons c lead =>
          have hne : before ≠ [] := by
            rintro rfl
            cases hopens
          rwa [opens_append_of_ne_nil hne]
    let p : Site doc := ⟨lead ++ before, head, after, hready, by rw [hdoc, htext]; simp⟩
    have hshorter : after.length < text.length := length_of_nextTag? hnext
    have hrest : doc = (lead ++ before ++ head.text) ++ after := by simp [hdoc, htext]
    obtain ⟨ps, hfound, hread⟩ := exists_found after hrest
    have hstop : (lead ++ before ++ head.text).length = p.stop :=
      List.length_append
    have hempty : (lead ++ before ++ head.text).isEmpty = false := by
      simp [Head.text]
    rw [hstop] at hfound hread
    rw [hempty] at hread
    refine ⟨p :: ps, .next ?_ ?_ hfound, ?_⟩
    · rcases List.eq_nil_or_concat before with rfl | ⟨x, c, rfl⟩
      · cases lead with
        | nil => exact .inl rfl
        | cons c lead => cases hopens
      · refine .inr ?_
        simp [p, Site.start]
    · intro q hq
      obtain ⟨x, hx, hxopens, rfl⟩ := hq.exists_rest hdoc
      obtain ⟨before', tag, hsome, hlen⟩ := exists_nextTag? hxopens
      rw [hnext] at hsome
      cases hsome
      simp [p, Site.start, hx, hlen]
    · have hslice : slice doc lead.length p.start = before := by
        simp [slice, p, Site.start, hdoc, htext]
      rw [ofSites, hslice, ← hread]
termination_by text.length

-- ============================================== which sites begin a tag

namespace Found

variable {doc : List Char} {origin : Nat} {ps : List (Site doc)}

theorem behind_of_mem (h : Found doc origin ps) {p : Site doc} (hp : p ∈ ps) :
    p.Behind origin := by
  induction h with
  | done none => cases hp
  | @next origin m ps behind first rest ih =>
      rcases List.mem_cons.1 hp with rfl | hp
      · exact behind
      · have hm := m.start_lt_stop
        have hp := ih hp
        have hstart := behind.le_start
        unfold Site.Behind at hp ⊢
        omega

/-- A site in reach begins a tag unless a tag's head ends right before it. -/
theorem mem_iff (h : Found doc origin ps) {p : Site doc} (hp : p.Behind origin) :
    p ∈ ps ↔ ∀ q ∈ ps, q.stop ≠ p.start := by
  induction h with
  | done none => exact absurd hp (none p)
  | @next origin m ps behind first rest ih =>
      have hm := m.start_lt_stop
      -- what is found later is in reach from behind `m`
      have hlater : ∀ q ∈ ps, m.stop < q.start := fun q hq =>
        (rest.behind_of_mem hq).resolve_left (by omega)
      constructor
      · intro hmem q hq hstop
        have hqstop := q.start_lt_stop
        rcases List.mem_cons.1 hmem with rfl | hmem
        · rcases List.mem_cons.1 hq with rfl | hq
          · omega
          · have := hlater q hq
            omega
        · have hpstart := hlater p hmem
          rcases List.mem_cons.1 hq with rfl | hq
          · omega
          · exact (ih (.inr hpstart)).1 hmem q hq hstop
      · intro hnone
        rcases Nat.eq_or_lt_of_le (first p hp) with heq | hlt
        · exact List.mem_cons.2 (.inl (Site.eq_of_start heq).symm)
        · have hle := Site.stop_le_start hlt
          have hne := hnone m (List.mem_cons_self ..)
          have hreach : p.Behind m.stop := .inr (by omega)
          exact List.mem_cons_of_mem _
            ((ih hreach).2 fun q hq => hnone q (List.mem_cons_of_mem _ hq))

end Found

/-- `n` sites stand in a row in front of a site, each directly behind the one
before. -/
inductive Site.InRow {doc : List Char} : Site doc → Nat → Prop
  | first {p : Site doc} (h : ∀ q : Site doc, q.stop ≠ p.start) : InRow p 0
  | next {p q : Site doc} {n : Nat} (h : q.stop = p.start) (row : InRow q n) :
      InRow p (n + 1)

theorem Site.exists_inRow {doc : List Char} (p : Site doc) : ∃ n, p.InRow n := by
  by_cases h : ∃ q : Site doc, q.stop = p.start
  · obtain ⟨q, hq⟩ := h
    have hlt : q.start < p.start := hq ▸ q.start_lt_stop
    obtain ⟨n, hrow⟩ := exists_inRow q
    exact ⟨n + 1, .next hq hrow⟩
  · exact ⟨0, .first fun q hq => h ⟨q, hq⟩⟩
termination_by p.start

/-- Along a row every other site begins a tag. -/
theorem Site.InRow.mem_iff_even {doc : List Char} {ps : List (Site doc)}
    (hfound : Found doc 0 ps) {p : Site doc} {n : Nat} (h : p.InRow n) :
    p ∈ ps ↔ Even n := by
  induction h with
  | @first p hnone =>
      rw [hfound.mem_iff (.inl rfl)]
      exact iff_of_true (fun q _ => hnone q) Even.zero
  | @next p q n hstop row ih =>
      rw [hfound.mem_iff (.inl rfl), Nat.even_add_one, ← ih]
      constructor
      · intro hnone hq
        exact hnone q hq hstop
      · intro hq r hr hrstop
        exact hq (Site.eq_of_stop (hrstop.trans hstop.symm) ▸ hr)

/-- Every other site of a row begins a tag of its own, the first one
included, and the rest are the front of the payload of the tag before. -/
theorem tags_begin_at_even_sites (doc : String) :
    ∃ sites : List (Site doc.toList),
      read true doc.toList = ofSites doc.toList 0 sites
        ∧ ∀ p : Site doc.toList, ∃ n, p.InRow n ∧ (p ∈ sites ↔ Even n)
          ∧ (Odd n → ∃ q ∈ sites, q.stop = p.start) := by
  obtain ⟨sites, hfound, hread⟩ := exists_found doc.toList (List.nil_append _).symm
  refine ⟨sites, hread, fun p => ?_⟩
  obtain ⟨n, hrow⟩ := p.exists_inRow
  have hmem := hrow.mem_iff_even hfound
  refine ⟨n, hrow, hmem, fun hodd => ?_⟩
  have hnot : p ∉ sites := fun hp => Nat.not_even_iff_odd.2 hodd (hmem.1 hp)
  by_contra hnone
  exact hnot ((hfound.mem_iff (.inl rfl)).2 fun q hq hstop => hnone ⟨q, hq, hstop⟩)

/-- Of three tags side by side the second is lost. -/
example : (read true "@title @notice @dev x".toList).tags.map (String.ofList ·.name)
    = ["title", "dev"] := by
  decide +kernel

end ContractDocs.Cut
