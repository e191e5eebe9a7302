/-
Canonical headers are stable: whatever header a signature was read from,
its canonical header is read as the same signature.

# One shape at a time

- A type header is made of names, which survive because nothing in the
  canonical header touches a word but blanks and commas.
- A state variable is one slot (`Slot.Reads.respelled`).
- A callable is a head and a tail. Its name is settled once
  (`settleName_joined`), its list is respelled entry by entry, and its tail
  is stable (`readTail_written`).

The shapes meet in `Signature.read_render`, and what follows for whole
headers is `canonical_header_stable`: reading again changes nothing, and no
two signatures of one kind share a canonical header.
-/
import ContractDocs.Proofs.Signature.Clauses
import Mathlib

namespace ContractDocs

open Text Grouping

-- ======================================================== type headers

namespace TypeHeader

theorem isName_of_readName {text : List Char} {name : String}
    (h : readName text = some name) : IsName name := by
  rw [readName] at h
  split at h
  · next hword =>
      cases h
      rw [Bool.and_eq_true] at hword
      constructor
      · rw [String.toList_ofList]
        simpa using hword.1
      · rw [String.toList_ofList]
        exact List.all_eq_true.1 hword.2
  · cases h

/-- A name is read back behind a space. -/
theorem readName_space {name : String} (h : IsName name) :
    readName (' ' :: name.toList) = some name := by
  have htrim : trim (' ' :: name.toList) = name.toList := by
    have hend : endsBlank name.toList = false := by
      cases hl : name.toList.getLast? with
      | none => rw [endsBlank, hl]; rfl
      | some c =>
          rw [endsBlank, hl, Option.any_some]
          exact isBlank_of_isWord (h.isWord c (List.mem_of_getLast? hl))
    rw [trim, trimStart, List.dropWhile_cons_of_pos isBlank_space]
    have hstart := h.trimStart_append []
    rw [List.append_nil, trimStart] at hstart
    rw [hstart, trimEnd]
    cases hr : name.toList.reverse with
    | nil => rw [← List.reverse_reverse name.toList, hr]; rfl
    | cons c x =>
        rw [endsBlank, List.getLast?_eq_head?_reverse, hr] at hend
        rw [List.dropWhile_cons_of_neg (by simpa using hend), ← hr,
          List.reverse_reverse]
  rw [readName, htrim]
  have hall : name.toList.all isWord = true := List.all_eq_true.2 h.isWord
  simp [h.ne_nil, hall]

theorem isName_of_mapM_readName {texts : List (List Char)} :
    ∀ {bases : List String}, texts.mapM readName = some bases →
      bases.length = texts.length ∧ ∀ base ∈ bases, IsName base := by
  induction texts with
  | nil =>
      intro bases h
      rw [List.mapM_nil] at h
      cases h
      exact ⟨rfl, fun base hbase => by cases hbase⟩
  | cons text texts ih =>
      intro bases h
      rw [List.mapM_cons, Option.bind_eq_bind, Option.bind_eq_some_iff] at h
      obtain ⟨name, hname, h⟩ := h
      rw [Option.bind_eq_bind, Option.bind_eq_some_iff] at h
      obtain ⟨names, hnames, h⟩ := h
      cases h
      obtain ⟨hlen, hall⟩ := ih hnames
      refine ⟨by rw [List.length_cons, List.length_cons, hlen], ?_⟩
      intro base hbase
      rcases List.mem_cons.1 hbase with rfl | hbase
      · exact isName_of_readName hname
      · exact hall base hbase

/-- The bases of a header that has any. -/
theorem isName_of_readBases {text : List Char} {bases : List String}
    (h : readBases text = some bases) :
    bases ≠ [] ∧ ∀ base ∈ bases, IsName base := by
  simp only [readBases, Option.bind_eq_bind, Option.bind_eq_some_iff] at h
  obtain ⟨-, -, list, -, -, -, hmap⟩ := h
  obtain ⟨hlen, hall⟩ := isName_of_mapM_readName hmap
  refine ⟨?_, hall⟩
  rintro rfl
  have hpos : (list.splitOn ',').length ≠ 0 := by
    rw [ne_eq, List.length_eq_zero_iff]
    exact List.splitOn_ne_nil ',' list
  exact hpos (by rw [← hlen]; rfl)

/-- A space in front of a list is a space in front of each entry. -/
theorem space_intercalate {p : List Char} (ps : List (List Char)) :
    ' ' :: [',', ' '].intercalate (p :: ps)
      = [','].intercalate ((p :: ps).map (' ' :: ·)) := by
  induction ps generalizing p with
  | nil => simp
  | cons q qs ih =>
      rw [List.intercalate_cons_cons, List.map_cons, List.map_cons,
        List.intercalate_cons_cons, ← List.map_cons, ← ih]
      simp

theorem mapM_readName_space {bases : List String}
    (h : ∀ base ∈ bases, IsName base) :
    (bases.map fun base => ' ' :: base.toList).mapM readName = some bases := by
  induction bases with
  | nil => rfl
  | cons base bases ih =>
      rw [List.map_cons, List.mapM_cons,
        readName_space (h base (List.mem_cons_self ..)),
        ih fun b hb => h b (List.mem_cons_of_mem _ hb)]
      rfl

/-- Bases are read back behind `is`. -/
theorem readBases_written {bases : List String} (hne : bases ≠ [])
    (h : ∀ base ∈ bases, IsName base) :
    readBases (' ' :: 'i' :: 's' :: ' '
        :: [',', ' '].intercalate (bases.map String.toList))
      = some bases := by
  have hlist : (' ' :: [',', ' '].intercalate (bases.map String.toList)).splitOn ','
      = bases.map fun base => ' ' :: base.toList := by
    cases bases with
    | nil => exact absurd rfl hne
    | cons base bases =>
        rw [List.map_cons, space_intercalate, ← List.map_cons,
          List.splitOn_intercalate, List.map_map]
        · rfl
        · intro entry hentry hcomma
          simp only [List.mem_map] at hentry
          obtain ⟨_, ⟨b, hb, rfl⟩, rfl⟩ := hentry
          rcases List.mem_cons.1 hcomma with hc | hc
          · cases hc
          · exact absurd ((h b hb).isWord ',' hc) (by decide)
        · simp
  rw [readBases, trimStart, List.dropWhile_cons_of_pos isBlank_space,
    List.dropWhile_cons_of_neg (by decide)]
  simp only [afterLead, if_pos, Option.bind_eq_bind, Option.bind_some,
    List.head?_cons, Option.any_some, isBlank_space, hlist,
    mapM_readName_space h, guard_true]
  rfl

/-- A name in front of something else, as a type header. -/
theorem read_name_append {name : String} {rest : List Char}
    (hn : IsName name) (hrest : startsWord rest = false) :
    read (name.toList ++ rest)
      = if isBlankText rest then .ok ⟨name, []⟩
        else match readBases rest with
          | some bases => .ok ⟨name, bases⟩
          | none => .error .notTypeHeader := by
  obtain ⟨htake, hdrop⟩ := hn.takeWhile_append hrest
  rw [read, hn.trimStart_append, htake, hdrop, String.ofList_toList]
  exact if_neg (by simpa using hn.ne_nil)

theorem toList_render {name : String} {bases : List String} (hne : bases ≠ []) :
    (TypeHeader.mk name bases).render.toList
      = name.toList ++ ' ' :: 'i' :: 's' :: ' '
        :: [',', ' '].intercalate (bases.map String.toList) := by
  cases bases with
  | nil => exact absurd rfl hne
  | cons base bases =>
      rw [render, String.toList_append, String.toList_append,
        String.toList_intercalate, List.append_assoc]
      rfl

/-- A type header of names is read back from its canonical form. -/
theorem read_render_of_isName {header : TypeHeader} (hname : IsName header.name)
    (hbases : ∀ base ∈ header.bases, IsName base) :
    read header.render.toList = .ok header := by
  obtain ⟨name, bases⟩ := header
  cases bases with
  | nil =>
      have hread := read_name_append hname startsWord_nil
      rw [List.append_nil] at hread
      exact hread
  | cons base bases =>
      have hne : base :: bases ≠ [] := List.cons_ne_nil _ _
      have hblank : ¬ isBlankText (' ' :: 'i' :: 's' :: ' '
          :: [',', ' '].intercalate ((base :: bases).map String.toList)) = true := by
        simp [isBlankText, show isBlank 'i' = false by decide]
      rw [toList_render hne,
        read_name_append hname (by rw [startsWord_cons]; decide),
        if_neg hblank, readBases_written hne hbases]

/-- A type header is read back from its canonical form. -/
theorem read_render {text : List Char} {header : TypeHeader}
    (h : read text = .ok header) : read header.render.toList = .ok header := by
  rw [read] at h
  split at h
  · cases h
  · next hname =>
      have hname : IsName (String.ofList ((trimStart text).takeWhile isWord)) :=
        .takeWhile (by simpa using hname)
      split at h
      · cases h
        exact read_render_of_isName hname fun base hbase => by cases hbase
      · split at h
        · next bases hbases =>
            cases h
            exact read_render_of_isName hname (isName_of_readBases hbases).2
        · cases h

end TypeHeader

-- ===================================================== state variables

namespace VariableHeader

/-- The canonical form of a variable is its slot, written. -/
theorem toList_render {slot : Slot} {name : String}
    (hname : slot.name = some name) :
    (VariableHeader.mk (TypeName.canonical (String.ofList slot.typeText))
      slot.location.toList name).render.toList = slot.written := by
  rw [render, Slot.written, hname, Slot.toList_spaced_some,
    TypeName.canonical, String.toList_ofList, String.toList_intercalate]
  cases slot.location with
  | none =>
      rw [Option.toList_none, spaced]
      simp
  | some location =>
      rw [Option.toList_some, Slot.toList_spaced_some]
      simp

/-- A slot with a name is a variable. -/
theorem read_of_slot {text : List Char} {slot : Slot} {name : String}
    (hslot : Slot.read text = some slot) (hname : slot.name = some name) :
    read text = .ok ⟨TypeName.canonical (String.ofList slot.typeText),
      slot.location.toList, name⟩ := by
  rw [read, hslot]
  simp only [hname]

/-- A state variable is read back from its canonical form. -/
theorem read_render {text : List Char} {header : VariableHeader}
    (h : read text = .ok header) : read header.render.toList = .ok header := by
  rw [read] at h
  split at h
  · cases h
  · next slot hslot =>
      split at h
      · cases h
      · next name hname =>
          cases h
          -- a text of blanks is a slot without a name
          have hne : tokens text ≠ [] := by
            intro hnil
            rw [Slot.read, trimStart_eq_nil_iff.2 hnil] at hslot
            split at hslot
            · split at hslot
              · cases hslot
              · cases hslot
                cases hname
            · next hcons => cases hcons
          obtain ⟨rest, hreads⟩ := Slot.reads_of_read hslot hne
          obtain ⟨slot', rest', hread, hreads', htype, hloc, hname'⟩ :=
            hreads.respelled hreads.tokens_written
          have hsuffix : ∃ suffix, slot.written
              = TypeName.canonicalChars slot.typeText ++ ' ' :: suffix := by
            rw [Slot.written, List.append_assoc, hname, Slot.toList_spaced_some]
            cases slot.location with
            | none => exact ⟨_, rfl⟩
            | some location =>
                rw [Slot.toList_spaced_some]
                exact ⟨_, rfl⟩
          obtain ⟨suffix, hsuffix⟩ := hsuffix
          have hspell : TypeName.canonicalChars slot'.typeText
              = TypeName.canonicalChars slot.typeText := by
            rw [hreads.typeText_of_written hreads' hsuffix htype,
              TypeName.canonicalChars_trim,
              TypeName.canonicalChars_canonicalChars]
          rw [toList_render hname, read_of_slot hread (hname'.trans hname),
            TypeName.canonical, TypeName.canonical, String.toList_ofList,
            String.toList_ofList, hspell, hloc]

end VariableHeader

-- =========================================================== callables

namespace CallableHeader

/-- What an accepted callable was read from. -/
theorem read_eq_ok_iff {kind : Kind} {text : List Char}
    {header : CallableHeader} :
    read kind text = .ok header
      ↔ ∃ written list rest tail,
        readHead text = .ok (written, list, rest)
          ∧ settleName kind written list = .ok header.name
          ∧ readParams list = .ok header.params
          ∧ (kind = .modifier → isBlankText rest = true)
          ∧ readTail rest = .ok tail
          ∧ tail = ⟨header.modifiers, header.returns⟩ := by
  rw [read, bind_eq_ok_iff]
  constructor
  · rintro ⟨⟨written, list, rest⟩, hhead, h⟩
    obtain ⟨name, hname, h⟩ := bind_eq_ok_iff.1 h
    obtain ⟨params, hparams, h⟩ := bind_eq_ok_iff.1 h
    split at h
    · cases h
    · next hkind =>
        obtain ⟨tail, htail, h⟩ := bind_eq_ok_iff.1 h
        cases h
        refine ⟨written, list, rest, tail, hhead, hname, hparams, ?_, htail, rfl⟩
        rintro rfl
        simpa using hkind
  · rintro ⟨written, list, rest, tail, hhead, hname, hparams, hkind, htail, rfl⟩
    refine ⟨_, hhead, bind_eq_ok_iff.2 ⟨_, hname, bind_eq_ok_iff.2 ⟨_, hparams, ?_⟩⟩⟩
    rw [if_neg (by simpa using hkind)]
    exact bind_eq_ok_iff.2 ⟨_, htail, rfl⟩

/-- The canonical form of a callable is a head and a tail. -/
theorem toList_render (header : CallableHeader) :
    header.render.toList
      = (header.name.getD "").toList ++ '(' :: (joined (header.params.map Param.render)
        ++ ')' :: Tail.written ⟨header.modifiers, header.returns⟩) := by
  have hmodifiers : (String.join (header.modifiers.map fun m => " " ++ m.render)).toList
      = header.modifiers.flatMap fun m => ' ' :: m.render.toList := by
    rw [String.toList_join, List.flatMap_map]
    simp
  rw [render, Param.renderList, Tail.written]
  cases header.returns with
  | none =>
      simp [hmodifiers, joined]
  | some params =>
      simp [hmodifiers, joined, Param.renderList]

/-- The name in front of a parameter list is a word, or is missing. -/
theorem isName_of_readHead {text list rest : List Char} {written : Option String}
    (h : readHead text = .ok (written, list, rest)) :
    (∀ name ∈ written, IsName name) ∧ enclosed 0 list = true := by
  rw [readHead] at h
  split at h
  · split at h
    · next list' tail hclose =>
        cases h
        refine ⟨fun name hname => ?_, enclosed_of_closeGroup hclose⟩
        split at hname
        · cases hname
        · next hne =>
            cases hname
            exact .takeWhile (by simpa using hne)
    · cases h
  · cases h

/-- A head is read with any blanks around the name. -/
theorem readHead_append {name : Option String} {lead gap list rest : List Char}
    (hname : ∀ n ∈ name, IsName n) (hlead : isBlankText lead = true)
    (hgap : isBlankText gap = true) (hlist : enclosed 0 list = true) :
    readHead (lead ++ ((name.getD "").toList ++ (gap ++ '(' :: (list ++ ')' :: rest))))
      = .ok (name, list, rest) := by
  have hparen : trimStart ('(' :: (list ++ ')' :: rest))
      = '(' :: (list ++ ')' :: rest) :=
    trimStart_cons_of_not_blank (by decide) _
  have hstart : startsWord (gap ++ '(' :: (list ++ ')' :: rest)) = false :=
    startsWord_blank_append hgap (by rw [startsWord_cons]; decide)
  have hclose := closeGroup_of_enclosed list rest 0 hlist
  cases name with
  | none =>
      rw [readHead, trimStart_blank_append hlead, Option.getD_none,
        String.toList_empty, List.nil_append, trimStart_blank_append hgap, hparen,
        List.dropWhile_cons_of_neg (by decide), hparen]
      simp only [hclose]
      rfl
  | some name =>
      have hn := hname name rfl
      obtain ⟨htake, hdrop⟩ := hn.takeWhile_append hstart
      rw [readHead, trimStart_blank_append hlead, Option.getD_some,
        hn.trimStart_append, htake, hdrop, trimStart_blank_append hgap, hparen]
      simp only [hclose]
      rw [if_neg (by simpa using hn.ne_nil), String.ofList_toList]

/-- A head is read back from its canonical form. -/
theorem readHead_written {name : Option String} {list rest : List Char}
    (hname : ∀ n ∈ name, IsName n) (hlist : enclosed 0 list = true) :
    readHead ((name.getD "").toList ++ '(' :: (list ++ ')' :: rest))
      = .ok (name, list, rest) :=
  @readHead_append name [] [] list rest hname rfl rfl hlist

/-- A name that was settled stays, and is a word. -/
theorem settleName_joined {kind : Kind} {written name : Option String}
    {list : List Char} {params : List Param}
    (hwritten : ∀ n ∈ written, IsName n) (hparams : readParams list = .ok params)
    (h : settleName kind written list = .ok name) :
    settleName kind name (joined (params.map Param.render)) = .ok name
      ∧ ∀ n ∈ name, IsName n := by
  unfold settleName at h
  split at h
  · cases h
    exact ⟨rfl, hwritten⟩
  · split at h
    · next hblank =>
        -- the fallback takes no parameters
        cases h
        rw [readParams_eq_ok_iff, splitTopLevelChars_of_blank hblank,
          List.forall₂_nil_left_iff] at hparams
        subst hparams
        exact ⟨rfl, hwritten⟩
    · cases h
  · cases h
    refine ⟨rfl, fun n hn => ?_⟩
    cases hn
    exact ⟨by decide, List.all_eq_true.1 (by decide)⟩
  · cases h

/-- A callable is read back from its canonical form. -/
theorem read_render {kind : Kind} {text : List Char} {header : CallableHeader}
    (h : read kind text = .ok header) :
    read kind header.render.toList = .ok header := by
  obtain ⟨name, params, modifiers, returns⟩ := header
  obtain ⟨written, list, rest, tail, hhead, hname, hparams, hkind, htail, rfl⟩ :=
    read_eq_ok_iff.1 h
  obtain ⟨hwritten, hlist⟩ := isName_of_readHead hhead
  obtain ⟨hsettled, hisName⟩ := settleName_joined hwritten hparams hname
  have hstable := stableParams_of_readParams hlist hparams
  rw [read_eq_ok_iff, toList_render]
  refine ⟨_, _, _, _, readHead_written hisName hstable.enclosed, hsettled,
    hstable.read, ?_, readTail_written (stable_of_readTail htail), rfl⟩
  -- a modifier has nothing behind its list, and gets nothing
  intro hmodifier
  rw [readTail_eq_ok_iff, clauses_of_blank (hkind hmodifier)] at htail
  cases htail.1
  rfl

end CallableHeader

-- ========================================================= any header

namespace Signature

/-- A signature is read back from its canonical header. -/
theorem read_render {kind : Kind} {header : String} {s : Signature}
    (h : read kind header = .ok s) : read kind s.render = .ok s := by
  cases kind with
  | contract | library | interface | struct | enum =>
      obtain ⟨parts, hparts, rfl⟩ := map_eq_ok_iff.1 h
      exact map_eq_ok_iff.2 ⟨parts, TypeHeader.read_render hparts, rfl⟩
  | stateVar =>
      obtain ⟨parts, hparts, rfl⟩ := map_eq_ok_iff.1 h
      exact map_eq_ok_iff.2 ⟨parts, VariableHeader.read_render hparts, rfl⟩
  | constructor | function | modifier | event =>
      obtain ⟨parts, hparts, rfl⟩ := map_eq_ok_iff.1 h
      exact map_eq_ok_iff.2 ⟨parts, CallableHeader.read_render hparts, rfl⟩

/-- Canonical headers are stable. Reading one gives back the signature it was
written from, part by part; so reading and writing again changes nothing, and
signatures of one kind that differ never share a canonical header. -/
theorem canonical_header_stable (kind : Kind) (header : String) (s : Signature)
    (h : read kind header = .ok s) :
    read kind s.render = .ok s
      ∧ (read kind s.render).map render = .ok s.render
      ∧ ∀ header' s', read kind header' = .ok s' → s ≠ s' →
        s.render ≠ s'.render := by
  have hread := read_render h
  refine ⟨hread, by rw [hread]; rfl, ?_⟩
  intro header' s' h' hne hrender
  have hread' := read_render h'
  rw [← hrender, hread] at hread'
  cases hread'
  exact hne rfl

theorem canonical_header_stable_swap :
    ∃ s, read .function ("swap (mapping( address=>uint[ ] )storage m,, (bytes\n) memory)"
        ++ " returns(bool ok)guard( 1 ,[2,3]) public") = .ok s
      ∧ s.render = "swap(mapping (address => uint[]) storage m, (bytes) memory)"
        ++ " guard(1, [2,3]) public returns (bool ok)"
      ∧ read .function s.render = .ok s
      ∧ (read .function s.render).map render = .ok s.render := by
  have h : read .function ("swap (mapping( address=>uint[ ] )storage m,, (bytes\n) memory)"
        ++ " returns(bool ok)guard( 1 ,[2,3]) public")
      = .ok (.callable
        { name := some "swap"
          params :=
            [⟨"mapping (address => uint[])", some "storage", some "m"⟩,
              ⟨"(bytes)", some "memory", none⟩]
          modifiers := [.call "guard" ["1", "[2,3]"], .word "public"]
          returns := some [⟨"bool", none, some "ok"⟩] }) := by
    cbv
  obtain ⟨hread, hrender, -⟩ := canonical_header_stable _ _ _ h
  exact ⟨_, h, by cbv, hread, hrender⟩

end Signature

end ContractDocs
