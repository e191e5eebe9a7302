/-
How a parameter or a state variable line is divided into type, location and
name: by its last two tokens.

# The rule

The reader lets the type grow one character at a time and never looks at
tokens. `divide` is the rule it follows nonetheless: a location keyword
before a last word, else a last keyword, else a last word, are cut off,
as long as a token is left for the type. A keyword counts as a whole token
only, so a name may begin with one, and one may follow a `]` without a
blank.

# Why the reader follows it

The type ends at the first cut whose rest is a suffix (`Reads`), and a
suffix has at most two tokens (`suffixOf`). The cases of `divide` are then
the suffixes by their length: that no suffix begins earlier is what each
case refuses of the cases before it (`divide_of_cut`).
-/
import ContractDocs.Proofs.Signature.WellFormed

namespace ContractDocs

open Text

namespace Slot

-- ============================================================ the rule

/-- The token is a word. -/
def isWordToken (token : List Char) : Bool :=
  token.all isWord

/-- The token can stand in a slot: a word, or a symbol of types. -/
def isTypeToken (token : List Char) : Bool :=
  isWordToken token || Param.typeSymbols.contains token

/-- The tokens of a type, with the location and the name behind them. -/
structure Division where
  type : List (List Char)
  location : Option String
  name : Option String
deriving DecidableEq, Repr

/-- Divides the tokens of a slot by the last two of them. -/
def divide (ts : List (List Char)) : Division :=
  if 3 ≤ ts.length && ts.dropLast.getLast?.any isLocation && ts.getLast?.any isWordToken then
    ⟨ts.dropLast.dropLast, ts.dropLast.getLast?.map String.ofList, ts.getLast?.map String.ofList⟩
  else if 2 ≤ ts.length && ts.getLast?.any isLocation then
    ⟨ts.dropLast, ts.getLast?.map String.ofList, none⟩
  else if 2 ≤ ts.length && ts.getLast?.any isWordToken then
    ⟨ts.dropLast, none, ts.getLast?.map String.ofList⟩
  else ⟨ts, none, none⟩

/-- The stretch of a text from its first token to the last one of `ts`, the
tokens it begins with. -/
structure Spans (text : List Char) (ts : List (List Char)) (span : List Char) : Prop where
  cut : ∃ rest, trimStart text = span ++ rest ∧ glued span rest = false
  tokens_eq : tokens span = ts
  endsBlank : endsBlank span = false

/-- The slot takes the text apart as its tokens are divided. -/
structure Divided (text : List Char) (slot : Slot) : Prop where
  typeTokens : ∀ t ∈ tokens text, isTypeToken t = true
  spans : Spans text (divide (tokens text)).type slot.typeText
  location : slot.location = (divide (tokens text)).location
  name : slot.name = (divide (tokens text)).name

/-- There is one stretch for given tokens. -/
theorem Spans.unique {text span span' : List Char} {ts : List (List Char)}
    (h : Spans text ts span) (h' : Spans text ts span') : span = span' := by
  obtain ⟨rest, hcut, hparted⟩ := h.cut
  obtain ⟨rest', hcut', hparted'⟩ := h'.cut
  exact cut_unique (hcut.symm.trans hcut') hparted hparted' h.endsBlank h'.endsBlank
    (h.tokens_eq.trans h'.tokens_eq.symm)

theorem Divided.unique {text : List Char} {slot slot' : Slot}
    (h : Divided text slot) (h' : Divided text slot') : slot = slot' := by
  obtain ⟨type, location, name⟩ := slot
  obtain ⟨type', location', name'⟩ := slot'
  have htype : type = type' := h.spans.unique h'.spans
  have hlocation : location = location' := h.location.trans h'.location.symm
  have hname : name = name' := h.name.trans h'.name.symm
  subst htype hlocation hname
  rfl

-- =========================================== suffixes by their length

theorem suffixOf_single (w : List Char) :
    suffixOf [w] = if isLocation w then some (some (String.ofList w), none)
      else if isWordToken w then some (none, some (String.ofList w)) else none := by
  by_cases hloc : isLocation w = true
  · simp [suffixOf, nameOf, hloc]
  · by_cases hword : w.all isWord = true
    · simp [suffixOf, nameOf, isWordToken, hloc, hword]
    · simp [suffixOf, nameOf, isWordToken, hloc, hword]

theorem suffixOf_pair (k w : List Char) :
    suffixOf [k, w] = if isLocation k && isWordToken w then
      some (some (String.ofList k), some (String.ofList w)) else none := by
  by_cases hloc : isLocation k = true
  · by_cases hword : w.all isWord = true
    · simp [suffixOf, nameOf, isWordToken, hloc, hword]
    · simp [suffixOf, nameOf, isWordToken, hloc, hword]
  · simp [suffixOf, nameOf, hloc]

/-- A suffix of one token is a word. -/
theorem isWordToken_of_suffixOf {w : List Char} (h : suffixOf [w] ≠ none) :
    isWordToken w = true := by
  rw [suffixOf_single] at h
  by_cases hloc : isLocation w = true
  · exact List.all_eq_true.2 (isWord_of_isLocation hloc).2
  · by_contra hword
    simp [hloc, hword] at h

/-- Tokens are divided where a suffix begins, when none begins earlier. -/
theorem divide_of_cut {A B : List (List Char)} {location name : Option String}
    (hA : A ≠ []) (hB : suffixOf B = some (location, name))
    (hshort : ∀ p q, A = p ++ q → p ≠ [] → q ≠ [] → suffixOf (q ++ B) = none) :
    divide (A ++ B) = ⟨A, location, name⟩ := by
  obtain ⟨front, last, rfl⟩ : ∃ front last, A = front ++ [last] := by
    rcases List.eq_nil_or_concat A with hnil | ⟨front, last, h⟩
    · exact absurd hnil hA
    · exact ⟨front, last, by rw [h, List.concat_eq_append]⟩
  -- unless the type has one token only, its last one begins no suffix
  have hearlier : 1 ≤ front.length → suffixOf (last :: B) = none := fun hfront =>
    hshort front [last] rfl (List.length_pos_iff.1 hfront) (List.cons_ne_nil _ _)
  match B with
  | [] =>
      cases hB
      by_cases hfront : 1 ≤ front.length
      · have hnone := hearlier hfront
        rw [suffixOf_single] at hnone
        have hloc : ¬ isLocation last = true := by
          intro hloc
          rw [if_pos hloc] at hnone
          cases hnone
        have hword : ¬ isWordToken last = true := by
          intro hword
          rw [if_neg hloc, if_pos hword] at hnone
          cases hnone
        simp [divide, hloc, hword]
      · have hshortfront : ¬ 2 ≤ front.length := by omega
        simp [divide, hfront, hshortfront]
  | [w] =>
      have hword : isWordToken w = true := isWordToken_of_suffixOf (by simp [hB])
      -- a keyword before the word would begin a suffix with it
      have hkey : (decide (1 ≤ front.length) && isLocation last) = false := by
        by_contra hkey
        rw [Bool.not_eq_false, Bool.and_eq_true, decide_eq_true_eq] at hkey
        have hnone := hearlier hkey.1
        rw [suffixOf_pair, hkey.2, hword] at hnone
        cases hnone
      rw [suffixOf_single] at hB
      by_cases hloc : isLocation w = true
      · rw [if_pos hloc] at hB
        cases hB
        simp_all [divide]
      · rw [if_neg hloc, if_pos hword] at hB
        cases hB
        simp_all [divide]
  | [k, w] =>
      rw [suffixOf_pair] at hB
      by_cases hpair : (isLocation k && isWordToken w) = true
      · rw [if_pos hpair] at hB
        cases hB
        rw [Bool.and_eq_true] at hpair
        have hsplit : front ++ [last] ++ [k, w] = front ++ [last] ++ [k] ++ [w] := by simp
        rw [divide, hsplit]
        simp [hpair]
      · rw [if_neg hpair] at hB
        cases hB
  | k :: w :: v :: more => simp [suffixOf, nameOf] at hB

-- ======================================================= type tokens

/-- The tokens of slots are those of their characters. -/
theorem isTypeToken_iff {t : List Char} (ht : IsToken t) :
    isTypeToken t = true ↔ ∀ c ∈ t, isTypeChar c = true := by
  cases ht with
  | word hne hw =>
      have hword : isTypeToken t = true := by
        rw [isTypeToken, isWordToken, List.all_eq_true.2 hw, Bool.true_or]
      refine ⟨fun _ c hc => ?_, fun _ => hword⟩
      simp [isTypeChar, hw c hc]
  | @symbol c hc =>
      have hsymbol : isWord c = false ∧ isBlank c = false := by
        simpa [isSymbol] using hc
      simp [isTypeToken, isWordToken, Param.typeSymbols, isTypeChar, hsymbol, or_assoc]

theorem forall_isTypeToken_iff (text : List Char) :
    (∀ t ∈ tokens text, isTypeToken t = true) ↔ ∀ c ∈ text, isTypeChar c = true := by
  constructor
  · intro h c hc
    cases hb : isBlank c with
    | true => simp [isTypeChar, hb]
    | false =>
        obtain ⟨t, ht, hct⟩ := exists_mem_token hc hb
        exact (isTypeToken_iff (isToken_of_mem_tokens ht)).1 (h t ht) c hct
  · intro h t ht
    exact (isTypeToken_iff (isToken_of_mem_tokens ht)).2 fun c hc => h c (mem_of_mem_token ht hc)

-- ==================================================== the reader divides

/-- What is read takes the text apart as its tokens are divided. -/
theorem Reads.divided {text rest : List Char} {slot : Slot}
    (h : Reads text slot rest) : Divided text slot := by
  have hdivide : divide (tokens text)
      = ⟨tokens slot.typeText, slot.location, slot.name⟩ := by
    rw [h.tokens_eq]
    exact divide_of_cut h.tokens_typeText_ne_nil h.suffix fun p q hpq hp hq =>
      h.suffixOf_of_cut hpq hp hq
  refine ⟨?_, ⟨⟨rest, h.split, h.parted⟩, ?_, h.endsBlank_typeText⟩, ?_, ?_⟩
  · exact (forall_isTypeToken_iff text).2 fun c hc => h.isTypeChar_of_mem hc
  · rw [hdivide]
  · rw [hdivide]
  · rw [hdivide]

/-- A slot is read exactly where the rule gives it. -/
theorem read_eq_some_iff_divided {text : List Char} (hne : tokens text ≠ [])
    (slot : Slot) : read text = some slot ↔ Divided text slot := by
  constructor
  · intro h
    obtain ⟨rest, hreads⟩ := reads_of_read h hne
    exact hreads.divided
  · intro h
    obtain ⟨found, hfound⟩ := exists_read hne ((forall_isTypeToken_iff text).1 h.typeTokens)
    obtain ⟨rest, hreads⟩ := reads_of_read hfound hne
    rw [hfound, hreads.divided.unique h]

/-- Nothing is read exactly where some token cannot stand in a slot. -/
theorem read_eq_none_iff {text : List Char} (hne : tokens text ≠ []) :
    read text = none ↔ ∃ t ∈ tokens text, isTypeToken t = false := by
  constructor
  · intro h
    by_contra hall
    simp only [not_exists, not_and, Bool.not_eq_false] at hall
    obtain ⟨slot, hslot⟩ := exists_read hne ((forall_isTypeToken_iff text).1 hall)
    rw [h] at hslot
    cases hslot
  · intro ⟨t, ht, hbad⟩
    cases h : read text with
    | none => rfl
    | some slot =>
        have hgood := ((read_eq_some_iff_divided hne slot).1 h).typeTokens t ht
        rw [hbad] at hgood
        cases hgood

end Slot

-- =========================================================== the callers

/-- A parameter is a slot with its type spelled. -/
theorem Param.read_eq_some_iff_divided {text : String} (hne : tokens text.toList ≠ [])
    (param : Param) :
    Param.read text = some param ↔ ∃ slot, Slot.Divided text.toList slot
      ∧ param = .ofText (String.ofList slot.typeText) slot.location slot.name := by
  unfold Param.read
  constructor
  · intro h
    obtain ⟨slot, hslot, hparam⟩ := Option.map_eq_some_iff.1 h
    exact ⟨slot, (Slot.read_eq_some_iff_divided hne slot).1 hslot, hparam.symm⟩
  · intro ⟨slot, hslot, hparam⟩
    rw [(Slot.read_eq_some_iff_divided hne slot).2 hslot, hparam]
    rfl

/-- A state variable is a slot with a name. -/
theorem VariableHeader.read_eq_ok_iff_divided {text : List Char} (hne : tokens text ≠ [])
    (header : VariableHeader) :
    VariableHeader.read text = .ok header ↔ ∃ slot name, Slot.Divided text slot
      ∧ slot.name = some name
      ∧ header = ⟨TypeName.canonical (String.ofList slot.typeText), slot.location.toList, name⟩ := by
  constructor
  · intro h
    unfold VariableHeader.read at h
    cases hslot : Slot.read text with
    | none => simp [hslot] at h
    | some slot =>
        cases hname : slot.name with
        | none => simp [hslot, hname] at h
        | some name =>
            simp only [hslot, hname, Except.ok.injEq] at h
            exact ⟨slot, name, (Slot.read_eq_some_iff_divided hne slot).1 hslot, hname, h.symm⟩
  · intro ⟨slot, name, hslot, hname, hheader⟩
    unfold VariableHeader.read
    simp only [(Slot.read_eq_some_iff_divided hne slot).2 hslot, hname, hheader]

/-- A state variable is refused for a token that cannot stand in a slot, and
for want of a name. -/
theorem VariableHeader.read_eq_error_iff {text : List Char} (hne : tokens text ≠ [])
    (reason : Malformed) :
    VariableHeader.read text = .error reason
      ↔ (reason = .notVariable ∧ ∃ t ∈ tokens text, Slot.isTypeToken t = false)
        ∨ (reason = .unnamedVariable ∧ (∀ t ∈ tokens text, Slot.isTypeToken t = true)
          ∧ (Slot.divide (tokens text)).name = none) := by
  unfold VariableHeader.read
  cases hslot : Slot.read text with
  | none =>
      obtain ⟨t, ht, hbad⟩ := (Slot.read_eq_none_iff hne).1 hslot
      have hsome : ¬ ∀ t ∈ tokens text, Slot.isTypeToken t = true := fun hall =>
        Bool.false_ne_true (hbad.symm.trans (hall t ht))
      have hexists : ∃ t ∈ tokens text, Slot.isTypeToken t = false := ⟨t, ht, hbad⟩
      simp only [hsome, hexists, false_and, and_false, or_false, and_true, Except.error.injEq]
      exact eq_comm
  | some slot =>
      have hdivided := (Slot.read_eq_some_iff_divided hne slot).1 hslot
      have hnone : ¬ ∃ t ∈ tokens text, Slot.isTypeToken t = false := fun ⟨t, ht, hbad⟩ =>
        Bool.false_ne_true (hbad.symm.trans (hdivided.typeTokens t ht))
      rw [← hdivided.name]
      cases hname : slot.name with
      | none =>
          simp only [hname, hnone, and_false, false_or, Except.error.injEq]
          exact ⟨fun h => ⟨h.symm, hdivided.typeTokens, trivial⟩, fun h => h.1.symm⟩
      | some name => simp [hname, hnone]

/-- A slot is divided by its tokens. Where every token is a word or a symbol
of types the text is read, the last two tokens say what is location and
what is name, and the type is spelled from the stretch of the tokens left; a
parameter is read alike, and a state variable unless it has no name. -/
theorem slot_divided_by_tokens (text : String) (hne : tokens text.toList ≠ []) :
    (∀ slot, Slot.read text.toList = some slot ↔ Slot.Divided text.toList slot)
      ∧ ((Slot.read text.toList).isSome = true
        ↔ ∀ t ∈ tokens text.toList, Slot.isTypeToken t = true)
      ∧ (∀ param, Param.read text = some param ↔ ∃ slot, Slot.Divided text.toList slot
        ∧ param = .ofText (String.ofList slot.typeText) slot.location slot.name)
      ∧ (∀ parts, Signature.read .stateVar text = .ok parts
        ↔ ∃ slot name, Slot.Divided text.toList slot ∧ slot.name = some name
          ∧ parts = .stateVar ⟨TypeName.canonical (String.ofList slot.typeText),
            slot.location.toList, name⟩)
      ∧ ∀ reason, Signature.read .stateVar text = .error reason
        ↔ (reason = .notVariable ∧ ∃ t ∈ tokens text.toList, Slot.isTypeToken t = false)
          ∨ (reason = .unnamedVariable
            ∧ (∀ t ∈ tokens text.toList, Slot.isTypeToken t = true)
            ∧ (Slot.divide (tokens text.toList)).name = none) := by
  have hread : Signature.read .stateVar text
      = (VariableHeader.read text.toList).map .stateVar := rfl
  refine ⟨Slot.read_eq_some_iff_divided hne, ?_, Param.read_eq_some_iff_divided hne, ?_, ?_⟩
  · rw [← Option.ne_none_iff_isSome, ne_eq, Slot.read_eq_none_iff hne]
    simp
  · intro parts
    rw [hread, map_eq_ok_iff]
    constructor
    · intro ⟨header, hheader, hparts⟩
      obtain ⟨slot, name, hslot, hname, heq⟩ :=
        (VariableHeader.read_eq_ok_iff_divided hne header).1 hheader
      exact ⟨slot, name, hslot, hname, by rw [← hparts, heq]⟩
    · intro ⟨slot, name, hslot, hname, hparts⟩
      exact ⟨_, (VariableHeader.read_eq_ok_iff_divided hne _).2 ⟨slot, name, hslot, hname, rfl⟩,
        hparts.symm⟩
  · intro reason
    rw [hread, ← VariableHeader.read_eq_error_iff hne]
    cases VariableHeader.read text.toList with
    | error e => simp [Except.map]
    | ok header => simp [Except.map]

/-- A keyword that is glued to a symbol is a location, one that is glued to
a word is a part of the name, and one alone is the type. -/
theorem gluedKeywords_divided :
    (tokens "uint [ ]memory".toList ≠ []
        ∧ Param.read "uint [ ]memory" = some ⟨"uint[]", some "memory", none⟩)
      ∧ (tokens "mapping(a=>b) public\tpublicKey".toList ≠ []
        ∧ Signature.read .stateVar "mapping(a=>b) public\tpublicKey"
          = .ok (.stateVar ⟨"mapping (a => b)", ["public"], "publicKey"⟩))
      ∧ (tokens "memory".toList ≠ []
        ∧ Signature.read .stateVar "memory" = .error .unnamedVariable) := by
  have hfirst : tokens "uint [ ]memory".toList ≠ [] := by decide +kernel
  have hsecond : tokens "mapping(a=>b) public\tpublicKey".toList ≠ [] := by decide +kernel
  have hthird : tokens "memory".toList ≠ [] := by decide +kernel
  obtain ⟨hdivided, -, hparam, -⟩ := slot_divided_by_tokens "uint [ ]memory" hfirst
  obtain ⟨hdivided', -, -, hvariable, -⟩ :=
    slot_divided_by_tokens "mapping(a=>b) public\tpublicKey" hsecond
  obtain ⟨-, -, -, -, hrefused⟩ := slot_divided_by_tokens "memory" hthird
  refine ⟨⟨hfirst, ?_⟩, ⟨hsecond, ?_⟩, ⟨hthird, ?_⟩⟩
  · exact (hparam _).2 ⟨⟨"uint [ ]".toList, some "memory", none⟩,
      (hdivided _).1 (by decide +kernel), by decide +kernel⟩
  · exact (hvariable _).2 ⟨⟨"mapping(a=>b)".toList, some "public", some "publicKey"⟩, "publicKey",
      (hdivided' _).1 (by decide +kernel), rfl, by decide +kernel⟩
  · exact (hrefused _).2 (.inr ⟨rfl, by decide +kernel, by decide +kernel⟩)

end ContractDocs
