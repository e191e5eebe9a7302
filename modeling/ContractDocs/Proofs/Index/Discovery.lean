/-
Source discovery is complete, exact and sorted, below any root that has no
links below it.

# What is returned

A walk ends at files and at directories that cannot be opened
(`Entry.Linkless.mem_finds_iff`). Of the files, those with the source
extension stay (`extension?_eq_source_iff`), and of those the ones that no
pattern excludes (`mem_sourceNames_iff_isSourceBelow`). A directory that
cannot be opened is warned of, and nothing below it is found
(`mem_shutNames_iff_isShutBelow`). A source can be opened by the path it was
found with (`IsSourceBelow.lookup_opened`).

# The order

Sources are sorted by their relative paths, as text. Different names make
different paths if they are shown differently, so the order is strict but for
sources that are shown alike (`pairwise_sourceNames`); and the order of texts
is that of their bytes.
-/
import ContractDocs.Proofs.Files.Lookup
import ContractDocs.Proofs.Index.Isolation
import ContractDocs.Proofs.Index.Walk
import ContractDocs.Proofs.Text.Cuts

namespace ContractDocs

open ContractDocs.Path Text

-- ========================================================== extensions

/-- A name with the extension of source files, in any case, behind something
else than the dot alone. -/
def HasSourceExtension (name : RawText) : Prop :=
  ∃ stem ext, stem ≠ [] ∧ name.bytes = stem ++ dot :: utf8 ext
    ∧ ext.map Char.toLower = "sol".toList

theorem extension?_eq_source_iff {name : RawText} :
    ((extension? name.bytes).bind ofUtf8?).map (fun ext => ext.toList.map Char.toLower)
        = some SourceFile.extension
      ↔ HasSourceExtension name := by
  constructor
  · intro h
    obtain ⟨text, htext, hlower⟩ := Option.map_eq_some_iff.1 h
    obtain ⟨ext, hext, hutf8⟩ := Option.bind_eq_some_iff.1 htext
    rw [ofUtf8?_eq_some_iff] at hutf8
    unfold extension? at hext
    split at hext
    · cases hext
    · cases hext
    · next stem ext' hstem hcut =>
        split at hext
        · cases hext
        · cases hext
          refine ⟨stem, text.toList, fun hnil => hstem (hnil ▸ rfl), ?_, hlower⟩
          rw [← hutf8]
          exact (cutLast_eq_some_iff.1 hcut).1
  · rintro ⟨stem, ext, hstem, hname, hlower⟩
    have hdot : dot ∉ utf8 ext := fun hmem => by
      obtain ⟨c, hc, hbyte⟩ := List.mem_flatMap.1 hmem
      obtain rfl : c = '.' := eq_of_toUInt8_mem (by decide) hbyte
      have hlowered : '.' ∈ "sol".toList := by
        rw [← hlower]
        exact List.mem_map.2 ⟨'.', hc, by decide⟩
      exact absurd hlowered (by decide)
    have hparent : stem ++ dot :: utf8 ext ≠ [dot, dot] := fun heq => by
      have hlength : stem.length + ((utf8 ext).length + 1) = 2 := by
        simpa using congrArg List.length heq
      have hpos := List.length_pos_of_ne_nil hstem
      have hnil : ext = [] :=
        utf8_injective (List.eq_nil_of_length_eq_zero (by omega))
      rw [hnil] at hlower
      exact absurd hlower (by decide)
    rw [hname, extension?, cutLast_append hdot stem]
    cases stem with
    | nil => exact absurd rfl hstem
    | cons b stem =>
        dsimp only
        have htext : ofUtf8? (utf8 ext) = some (String.ofList ext) :=
          ofUtf8?_eq_some_iff.2 (by rw [String.toList_ofList])
        rw [if_neg hparent, Option.bind_some, htext, Option.map_some, String.toList_ofList,
          hlower, SourceFile.extension]

-- ============================================== what lies below a root

/-- A source below a directory, as seen from a root: a file with the source
extension, behind directories that are looked into and in reach, that no
pattern excludes. -/
structure IsSourceBelow (files : Files) (root : RawText) (dir : Location) (hidden : Bool)
    (excluded : List Glob) (names : List RawText) : Prop where
  file : ∃ entry, files.entry? (dir ++ names) = some entry ∧ entry.isFile = true
  extension : ∃ name, names.getLast? = some name ∧ HasSourceExtension name
  visible : Entry.Visible hidden names.dropLast
  inReach : Entry.InReach root names
  included : Glob.anyAccepts excluded ("/".intercalate (names.map RawText.text)) = false

/-- A directory below another one that is looked for but cannot be opened, as
seen from a root. -/
structure IsShutBelow (files : Files) (root : RawText) (dir : Location) (hidden : Bool)
    (names : List RawText) (cause : FileError) : Prop where
  dir : ∃ entry, files.entry? (dir ++ names) = some entry ∧ entry.isDir = true
    ∧ Entry.refusal? (names.foldl child root) entry = some cause
  visible : Entry.Visible hidden names
  inReach : Entry.InReach root names

namespace SourceFile

/-- The source file that names lead to from a root. -/
def ofNames (root : RawText) (names : List RawText) : SourceFile :=
  ⟨"/".intercalate (names.map RawText.text), names.foldl child root⟩

/-- The warning of a directory that names lead to from a root. -/
def shutWarning (root : RawText) (shut : List RawText × FileError) : Diagnostic :=
  .warning ("cannot read " ++ "/".intercalate (shut.1.map RawText.text)
    ++ ": IO error for operation on " ++ (shut.1.foldl child root).text ++ ": "
    ++ shut.2.message)

variable {files : Files} {root : RawText} {config : Config} {dir : Location}
  {entries : Entries} {excluded : List Glob} {hidden : Bool} {names : List RawText}
  {finds : List (List RawText × Option FileError)}

/-- The name of a file alone decides whether it is a source. -/
theorem isSource_foldl_child (h : ∀ name ∈ names, IsNormalName name) (hne : names ≠ [])
    (root : RawText) :
    isSource (names.foldl child root) = true
      ↔ ∃ name, names.getLast? = some name ∧ HasSourceExtension name := by
  obtain ⟨dirs, name, rfl⟩ := (List.eq_nil_or_concat' names).resolve_left hne
  have hlast : (Files.segments ((dirs ++ [name]).foldl child root)).getLast? = some name := by
    rw [List.foldl_append, List.foldl_cons, List.foldl_nil]
    exact getLast?_segments_child _ (h name (by simp))
  rw [isSource, hlast]
  simp only [decide_eq_true_eq, extension?_eq_source_iff, List.getLast?_append,
    List.getLast?_singleton, Option.some_or, Option.some.injEq, exists_eq_left']

-- ============================================================= results

/-- The names of the files among the ends of a walk. -/
def fileNames (finds : List (List RawText × Option FileError)) : List (List RawText) :=
  (finds.filter fun find => find.2 = none).map Prod.fst

/-- The names of the directories among the ends of a walk, with the reasons. -/
def shutNames (finds : List (List RawText × Option FileError)) :
    List (List RawText × FileError) :=
  finds.filterMap fun find => find.2.map (find.1, ·)

/-- The names of the sources among those of files, in the order of the paths
they make. -/
def sourceNames (root : RawText) (excluded : List Glob) (found : List (List RawText)) :
    List (List RawText) :=
  (found.filter fun names =>
      !Glob.anyAccepts excluded ("/".intercalate (names.map RawText.text))
        && isSource (names.foldl child root)).mergeSort
    fun a b => "/".intercalate (a.map RawText.text) ≤ "/".intercalate (b.map RawText.text)

theorem mem_fileNames_iff : names ∈ fileNames finds ↔ (names, none) ∈ finds := by
  simp [fileNames, List.mem_map, List.mem_filter]

theorem mem_shutNames_iff {cause : FileError} :
    (names, cause) ∈ shutNames finds ↔ (names, some cause) ∈ finds := by
  rw [shutNames, List.mem_filterMap]
  constructor
  · rintro ⟨⟨names', result⟩, hmem, heq⟩
    obtain ⟨cause', hresult, heq⟩ := Option.map_eq_some_iff.1 heq
    cases heq
    cases hresult
    exact hmem
  · intro hmem
    exact ⟨(names, some cause), hmem, rfl⟩

theorem nodup_fileNames (h : (finds.map Prod.fst).Nodup) : (fileNames finds).Nodup :=
  (List.filter_sublist.map Prod.fst).nodup h

theorem shutNames_sublist (finds : List (List RawText × Option FileError)) :
    ((shutNames finds).map Prod.fst).Sublist (finds.map Prod.fst) := by
  induction finds with
  | nil => exact List.Sublist.refl []
  | cons find finds ih =>
      obtain ⟨names, result⟩ := find
      cases result with
      | none => exact ih.cons names
      | some cause => exact ih.cons_cons names

theorem nodup_sourceNames {found : List (List RawText)} (h : found.Nodup) (root : RawText)
    (excluded : List Glob) : (sourceNames root excluded found).Nodup :=
  (List.mergeSort_perm _ _).nodup_iff.2 (h.filter _)

/-- The directory that a root leads to is not too long to be opened. -/
theorem findsAmong_eq_finds {place : Location}
    (hroot : files.lookup root = .ok (place, .dir entries)) :
    Entry.findsAmong hidden root entries = (Entry.dir entries).finds hidden root := by
  have hshort := Entry.isTooLong_eq_false_iff.2 (Files.length_le_of_lookup hroot)
  rw [Entry.finds, hshort, if_neg Bool.false_ne_true]

variable (hnames : ∀ find ∈ finds, ∀ name ∈ find.1, IsNormalName name)

include hnames

theorem ofSightings_finds (root : RawText) (excluded : List Glob) :
    ofSightings root excluded (finds.map (Entry.sightingFrom root))
      = (sourceNames root excluded (fileNames finds)).map (ofNames root) := by
  have hpaths : (finds.map (Entry.sightingFrom root)).filterMap Sighting.file?
      = (fileNames finds).map (·.foldl child root) := by
    rw [List.filterMap_map, fileNames, List.map_map, ← List.filterMap_eq_map,
      List.filterMap_filter]
    refine List.filterMap_congr fun find _ => ?_
    obtain ⟨names, result⟩ := find
    cases result <;> rfl
  have hfiles : ∀ names ∈ fileNames finds, ∀ name ∈ names, IsNormalName name :=
    fun names hmem => hnames (names, none) (mem_fileNames_iff.1 hmem)
  have hnamed : (((fileNames finds).map (·.foldl child root)).filter isSource).map
        (fun path => (⟨Path.relative root path, path⟩ : SourceFile))
      = ((fileNames finds).filter (isSource ∘ (·.foldl child root))).map (ofNames root) := by
    rw [List.filter_map, List.map_map]
    refine List.map_congr_left fun names hmem => ?_
    rw [Function.comp_apply, relative_foldl_child (hfiles names (List.mem_filter.1 hmem).1),
      ofNames]
  have hsorted : (sourceNames root excluded (fileNames finds)).map (ofNames root)
      = (((fileNames finds).filter fun names =>
          !Glob.anyAccepts excluded ("/".intercalate (names.map RawText.text))
            && isSource (names.foldl child root)).map (ofNames root)).mergeSort
        fun a b => a.relative ≤ b.relative :=
    List.map_mergeSort fun _ _ _ _ => rfl
  rw [hsorted, ofSightings, hpaths, hnamed, List.filter_map, List.filter_filter]
  rfl

theorem diagnostics_finds (root : RawText) :
    (finds.map (Entry.sightingFrom root)).filterMap (·.diagnostic? root)
      = (shutNames finds).map (shutWarning root) := by
  rw [List.filterMap_map, shutNames, List.map_filterMap]
  refine List.filterMap_congr fun find hmem => ?_
  obtain ⟨names, result⟩ := find
  cases result with
  | none => rfl
  | some cause =>
      show some _ = some _
      rw [shutWarning, relative_foldl_child (hnames _ hmem)]

omit hnames

/-- What is found below a root, from the ends of the walk. -/
theorem discover_eq {place : Location} (htree : (Entry.dir entries).Linkless)
    (hroot : files.lookup root = .ok (place, .dir entries))
    (hglobs : config.exclusions = .ok excluded) :
    discover files root config
      = .ok ((sourceNames root excluded
          (fileNames (Entry.findsAmong config.includeHidden root entries))).map (ofNames root),
        (shutNames (Entry.findsAmong config.includeHidden root entries)).map
          (shutWarning root)) := by
  have hfinds : ∀ find ∈ Entry.findsAmong config.includeHidden root entries,
      ∀ name ∈ find.1, IsNormalName name := by
    rintro ⟨names, result⟩ hmem
    rw [findsAmong_eq_finds hroot] at hmem
    obtain ⟨found, hget, -⟩ := htree.mem_finds_iff _ _ |>.1 hmem
    exact (htree.of_get? hget).2
  rw [discover, hroot]
  dsimp only
  rw [hglobs, htree.walk_eq files _ _ rfl, ← ofSightings_finds hfinds,
    ← diagnostics_finds hfinds]
  rfl

-- ============================================================== exactness

theorem mem_sourceNames_iff {found : List (List RawText)} :
    names ∈ sourceNames root excluded found
      ↔ names ∈ found
        ∧ Glob.anyAccepts excluded ("/".intercalate (names.map RawText.text)) = false
        ∧ isSource (names.foldl child root) = true := by
  rw [sourceNames, List.mem_mergeSort, List.mem_filter, Bool.and_eq_true, Bool.not_eq_true']

section

variable (htree : (Entry.dir entries).Linkless)
  (hroot : files.lookup root = .ok (dir, .dir entries))

include htree hroot

/-- What a walk ends at is what stands below its root. -/
theorem mem_findsAmong_iff_below {result : Option FileError} :
    (names, result) ∈ Entry.findsAmong hidden root entries
      ↔ ∃ found, files.entry? (dir ++ names) = some found
        ∧ found.outcome? (names.foldl child root) = some result
        ∧ Entry.Visible hidden (found.dirsTo names) ∧ Entry.InReach root names := by
  rw [findsAmong_eq_finds hroot, htree.mem_finds_iff,
    Files.entry?_append (Files.entry?_of_lookup hroot)]

theorem isNormalName_of_below {found : Entry} (h : files.entry? (dir ++ names) = some found) :
    ∀ name ∈ names, IsNormalName name := by
  rw [Files.entry?_append (Files.entry?_of_lookup hroot)] at h
  exact (htree.of_get? h).2

/-- The sources that are found are those that lie below the root. -/
theorem mem_sourceNames_iff_isSourceBelow :
    names ∈ sourceNames root excluded (fileNames (Entry.findsAmong hidden root entries))
      ↔ IsSourceBelow files root dir hidden excluded names := by
  rw [mem_sourceNames_iff, mem_fileNames_iff, mem_findsAmong_iff_below htree hroot]
  constructor
  · rintro ⟨⟨found, hentry, houtcome, hvisible, hreach⟩, hincluded, hsource⟩
    have hfile := Entry.outcome?_eq_none_iff.1 houtcome
    have hne : names ≠ [] := by
      rintro rfl
      rw [List.append_nil, Files.entry?_of_lookup hroot] at hentry
      cases hentry
      cases hfile
    rw [Entry.dirsTo, Entry.isDir_of_isFile hfile, if_neg Bool.false_ne_true] at hvisible
    exact ⟨⟨found, hentry, hfile⟩,
      (isSource_foldl_child (isNormalName_of_below htree hroot hentry) hne root).1 hsource,
      hvisible, hreach, hincluded⟩
  · rintro ⟨⟨found, hentry, hfile⟩, hextension, hvisible, hreach, hincluded⟩
    have hdirs : Entry.Visible hidden (found.dirsTo names) := by
      rwa [Entry.dirsTo, Entry.isDir_of_isFile hfile, if_neg Bool.false_ne_true]
    have hne : names ≠ [] := by
      rintro rfl
      obtain ⟨name, hnone, -⟩ := hextension
      cases hnone
    exact ⟨⟨found, hentry, Entry.outcome?_eq_none_iff.2 hfile, hdirs, hreach⟩, hincluded,
      (isSource_foldl_child (isNormalName_of_below htree hroot hentry) hne root).2 hextension⟩

/-- The directories that are warned of are those that are shut. -/
theorem mem_shutNames_iff_isShutBelow {cause : FileError} :
    (names, cause) ∈ shutNames (Entry.findsAmong hidden root entries)
      ↔ IsShutBelow files root dir hidden names cause := by
  rw [mem_shutNames_iff, mem_findsAmong_iff_below htree hroot]
  constructor
  · rintro ⟨found, hentry, houtcome, hvisible, hreach⟩
    obtain ⟨hdir, hcause⟩ := Entry.outcome?_eq_some_iff.1 houtcome
    rw [Entry.dirsTo, if_pos hdir] at hvisible
    exact ⟨⟨found, hentry, hdir, hcause⟩, hvisible, hreach⟩
  · rintro ⟨⟨found, hentry, hdir, hcause⟩, hvisible, hreach⟩
    refine ⟨found, hentry, Entry.outcome?_eq_some_iff.2 ⟨hdir, hcause⟩, ?_, hreach⟩
    rwa [Entry.dirsTo, if_pos hdir]

/-- A source below a root is opened by the path it is found with, up to the
lengths that names and paths may have. -/
theorem IsSourceBelow.lookup_opened
    (h : IsSourceBelow files root dir hidden excluded names)
    (hlengths : ∀ name ∈ names, name.bytes.length ≤ Files.longestName)
    (hshort : (ofNames root names).opened.bytes.length ≤ Files.longestPath) :
    ∃ entry, files.lookup (ofNames root names).opened = .ok (dir ++ names, entry)
      ∧ entry.isFile = true := by
  obtain ⟨entry, hentry, hfile⟩ := h.file
  have hnames : ∀ name ∈ names, IsNormalName name ∧ name.bytes.length ≤ Files.longestName :=
    fun name hmem => ⟨isNormalName_of_below htree hroot hentry name hmem, hlengths name hmem⟩
  rw [Files.entry?_append (Files.entry?_of_lookup hroot)] at hentry
  refine ⟨entry, Files.lookup_foldl_child hroot hnames hentry ?_ hshort, hfile⟩
  rintro target rfl
  cases hfile

end

-- ================================================================= order

/-- Names that are shown alike though not all of them are text. -/
def ShownAlike (a b : List RawText) : Prop :=
  a.map RawText.text = b.map RawText.text ∧ ∃ name ∈ a, '\uFFFD' ∈ name.text.toList

/-- Names that are text are told apart by what is shown of them. -/
theorem eq_of_map_text_eq {a : List RawText} (ha : ∀ name ∈ a, '\uFFFD' ∉ name.text.toList) :
    ∀ {b : List RawText}, a.map RawText.text = b.map RawText.text → a = b := by
  induction a with
  | nil =>
      intro b h
      exact (List.map_eq_nil_iff.1 h.symm).symm
  | cons x a ih =>
      intro b h
      cases b with
      | nil => cases h
      | cons y b =>
          rw [List.forall_mem_cons] at ha
          rw [List.map_cons, List.map_cons, List.cons.injEq] at h
          have hhead : x = y :=
            (RawText.eq_ofText_of_text rfl ha.1).trans
              (RawText.eq_ofText_of_text h.1.symm ha.1).symm
          rw [hhead, ih ha.2 h.2]

/-- Names that are shown differently make different paths, so sorted paths are
strictly sorted, and their bytes are. -/
theorem pairwise_shownAlike_or_lt {found : List (List RawText)}
    (hnames : ∀ names ∈ found, ∀ name ∈ names, IsNormalName name) (hne : [] ∉ found)
    (hnodup : found.Nodup)
    (hsorted : (found.map (ofNames root)).Pairwise fun a b => a.relative ≤ b.relative) :
    found.Pairwise fun a b => ShownAlike a b
      ∨ utf8 (ofNames root a).relative.toList < utf8 (ofNames root b).relative.toList := by
  rw [List.pairwise_map] at hsorted
  refine (hsorted.and hnodup).imp_of_mem fun {a b} ha hb ⟨hle, hdiffer⟩ => ?_
  by_cases htexts : a.map RawText.text = b.map RawText.text
  · refine .inl ⟨htexts, ?_⟩
    by_contra hall
    exact hdiffer (eq_of_map_text_eq (fun name hname hmem => hall ⟨name, hname, hmem⟩) htexts)
  · refine .inr (utf8_lt_utf8 ?_)
    have hentries : ∀ names ∈ found, ∀ name ∈ names.map RawText.text, IsEntryName name :=
      fun names hmem => List.forall_mem_map.2 fun name hname =>
        (hnames names hmem name hname).isEntryName_text
    have hnonempty : ∀ names ∈ found, names.map RawText.text ≠ [] := fun names hmem hnil =>
      hne (List.map_eq_nil_iff.1 hnil ▸ hmem)
    have hpaths : (ofNames root a).relative ≠ (ofNames root b).relative := fun heq =>
      htexts (eq_of_intercalate_eq (hentries a ha) (hentries b hb) (hnonempty a ha)
        (hnonempty b hb) heq)
    have hlt : (ofNames root a).relative < (ofNames root b).relative :=
      Std.lt_of_le_of_ne hle hpaths
    exact hlt

-- ============================================================ discovery

/-- Discovery is complete, exact and sorted. Where there are no links below a
root, what is found is every source below it, each one once, and what is warned
of are the directories that cannot be opened, each one once. The sources stand
strictly in the byte order of their relative paths, but for those whose names
are shown alike because they are not text. -/
theorem discovers_exactly_the_sources (files : Files) (root : RawText) (config : Config)
    (dir : Location) (entries : Entries) (excluded : List Glob)
    (htree : (Entry.dir entries).Linkless)
    (hroot : files.lookup root = .ok (dir, .dir entries))
    (hglobs : config.exclusions = .ok excluded) :
    ∃ (found : List (List RawText)) (shut : List (List RawText × FileError)),
      (∀ names, names ∈ found
        ↔ IsSourceBelow files root dir config.includeHidden excluded names)
      ∧ found.Nodup
      ∧ (∀ names cause, (names, cause) ∈ shut
        ↔ IsShutBelow files root dir config.includeHidden names cause)
      ∧ (shut.map Prod.fst).Nodup
      ∧ discover files root config = .ok (found.map (ofNames root), shut.map (shutWarning root))
      ∧ found.Pairwise fun a b => ShownAlike a b
        ∨ utf8 (ofNames root a).relative.toList < utf8 (ofNames root b).relative.toList := by
  have hdiscover := discover_eq htree hroot hglobs
  have hfound : ∀ names, names ∈ sourceNames root excluded
        (fileNames (Entry.findsAmong config.includeHidden root entries))
      ↔ IsSourceBelow files root dir config.includeHidden excluded names := fun _ =>
    mem_sourceNames_iff_isSourceBelow htree hroot
  have hways := htree.nodup_finds config.includeHidden root
  rw [← findsAmong_eq_finds hroot] at hways
  have hnodup := nodup_sourceNames (nodup_fileNames hways) root excluded
  refine ⟨_, _, hfound, hnodup, fun _ _ => mem_shutNames_iff_isShutBelow htree hroot,
    (shutNames_sublist _).nodup hways, hdiscover,
    pairwise_shownAlike_or_lt ?_ ?_ hnodup (discover_sorted hdiscover)⟩
  · intro names hmem
    obtain ⟨entry, hentry, -⟩ := ((hfound names).1 hmem).file
    exact isNormalName_of_below htree hroot hentry
  · intro hnil
    obtain ⟨name, hnone, -⟩ := ((hfound []).1 hnil).extension
    cases hnone

/-- A documentation directory to run in, and beside it sources next to and
below a directory of the same name, one that is hidden itself, one each behind
a hidden and an excluded directory, and a directory that may not be opened. -/
def mixedSources : Files where
  top := [("project", .dir [
    ("contracts", .dir [
      (".A.sol", .file .empty none),
      (".git", .dir [("Hook.sol", .file .empty none)]),
      ("a", .dir [("Z.SOL", .file .empty none)]),
      ("a.sol", .file .empty none),
      ("mocks", .dir [("Fake.sol", .file .empty none)]),
      ("notes.md", .file .empty none),
      ("vault", .locked true)]),
    ("docs", .dir [])])]
  workingDir := ["project", "docs"]

theorem linkless_mixedSources : (Entry.dir mixedSources.top).Linkless := by
  have hfile : (Entry.file .empty none).Linkless := .file .empty none
  have hone : ∀ {name : RawText} {entry : Entry}, IsNormalName name → entry.Linkless →
      (Entry.dir [(name, entry)]).Linkless := fun hname hentry =>
    .dir (by simp) (by simpa using hname) (by simpa using hentry)
  refine hone (by decide +kernel) (.dir (by decide +kernel) (by decide +kernel) ?_)
  simp only [List.forall_mem_cons, List.not_mem_nil, false_implies, implies_true, and_true]
  refine ⟨.dir (by decide +kernel) (by decide +kernel) ?_, .dir (by simp) (by simp) (by simp)⟩
  simp only [List.forall_mem_cons, List.not_mem_nil, false_implies, implies_true, and_true]
  exact ⟨hfile, hone (by decide +kernel) hfile, hone (by decide +kernel) hfile, hfile,
    hone (by decide +kernel) hfile, hfile, .locked true⟩

/-- The sources beside the documentation, by the way that is the default. -/
theorem mixedSources_lookup : ∃ entries,
    mixedSources.lookup "./../contracts" = .ok (["project", "contracts"], .dir entries) := by
  refine ⟨_, Files.lookup_eq_ok_iff.2 ⟨by decide, by decide, ?_, rfl⟩⟩
  rw [show Files.segments "./../contracts" = [(".": RawText), "..", "contracts"] by decide +kernel,
    show Files.startOf mixedSources.workingDir "./../contracts" = ["project", "docs"] from rfl,
    Files.follow_here rfl, Files.follow_parent rfl,
    Files.follow_name rfl (by decide) (by decide) rfl (by simp), Files.follow_nil]
  rfl

example : ∃ entries,
    mixedSources.lookup "/project/contracts" = .ok (["project", "contracts"], .dir entries) := by
  refine ⟨_, Files.lookup_eq_ok_iff.2 ⟨by decide, by decide, ?_, rfl⟩⟩
  rw [show Files.segments "/project/contracts"
      = [("": RawText), "project", "contracts"] by decide +kernel,
    show Files.startOf mixedSources.workingDir "/project/contracts" = .top from rfl,
    Files.follow_empty rfl, Files.follow_name rfl (by decide) (by decide) rfl (by simp),
    Files.follow_name rfl (by decide) (by decide) rfl (by simp), Files.follow_nil]
  rfl

/-- What `mocks/**` excludes. -/
def mocks : Glob :=
  ⟨[.char 'm', .char 'o', .char 'c', .char 'k', .char 's', .allBelow]⟩

theorem read_mocks : Glob.read "mocks/**" = .ok mocks := by
  have hchars : "mocks/**".toList = ['m', 'o', 'c', 'k', 's', '/', '*', '*'] := by decide
  rw [Glob.read, hchars]
  simp [Glob.readFrom, Glob.doubleStar, Glob.replaceSlash, mocks, Except.map]

/-- The hidden file and the one below the directory are found, the ones behind
the hidden and the excluded directory are not, and the locked directory is
warned of. -/
theorem mixedSources_discovered :
    ∃ (found : List (List RawText)) (shut : List (List RawText × FileError)),
      ([".A.sol"] : List RawText) ∈ found ∧ (["a", "Z.SOL"] : List RawText) ∈ found
      ∧ ([".git", "Hook.sol"] : List RawText) ∉ found
      ∧ (["mocks", "Fake.sol"] : List RawText) ∉ found
      ∧ ((["vault"] : List RawText), FileError.denied) ∈ shut
      ∧ found.Nodup
      ∧ discover mixedSources "./../contracts" { excludedPaths := ["mocks/**"] }
        = .ok (found.map (ofNames "./../contracts"), shut.map (shutWarning "./../contracts")) := by
  have hglobs : ({ excludedPaths := ["mocks/**"] } : Config).exclusions = .ok [mocks] := by
    rw [Config.exclusions, Config.readPatterns]
    simp [read_mocks]
  obtain ⟨entries, hroot⟩ := mixedSources_lookup
  have htree := (linkless_mixedSources.of_get? (Files.entry?_of_lookup hroot)).1
  obtain ⟨found, shut, hfound, hnodup, hshut, -, hdiscover, -⟩ :=
    discovers_exactly_the_sources mixedSources "./../contracts" { excludedPaths := ["mocks/**"] }
      ["project", "contracts"] entries [mocks] htree hroot hglobs
  refine ⟨found, shut, (hfound _).2 ?_, (hfound _).2 ?_, fun h => ?_, fun h => ?_,
    (hshut _ _).2 ?_, hnodup, hdiscover⟩
  · exact ⟨⟨_, rfl, rfl⟩, ⟨".A.sol", rfl, [46, 65], ['s', 'o', 'l'], by decide +kernel⟩,
      by decide, by decide +kernel, by decide +kernel⟩
  · exact ⟨⟨_, rfl, rfl⟩, ⟨"Z.SOL", rfl, [90], ['S', 'O', 'L'], by decide +kernel⟩,
      by decide +kernel, by decide +kernel, by decide +kernel⟩
  · exact absurd ((hfound _).1 h).visible (by decide +kernel)
  · exact absurd ((hfound _).1 h).included (by decide +kernel)
  · exact ⟨⟨_, rfl, rfl, by decide +kernel⟩, by decide +kernel, by decide +kernel⟩

-- ============================================== alike and out of reach

/-- A name that is no text, with the extension of sources. -/
def unreadableName (b : UInt8) : RawText :=
  ⟨b :: utf8 ".sol".toList⟩

/-- Two sources with names that are shown alike. -/
def twinSources : Files where
  top := [(unreadableName 0xFE, .file .empty none), (unreadableName 0xFF, .file .empty none)]

theorem linkless_twinSources : (Entry.dir twinSources.top).Linkless :=
  .dir (by decide +kernel) (by decide +kernel) (by
    simp only [twinSources, List.forall_mem_cons, List.not_mem_nil, false_implies, implies_true,
      and_true]
    exact ⟨.file .empty none, .file .empty none⟩)

theorem exclusions_default : ({} : Config).exclusions = .ok [] := rfl

theorem twinSources_discover :
    discover twinSources "." {}
      = .ok ([⟨"\uFFFD.sol", child "." (unreadableName 0xFE)⟩,
        ⟨"\uFFFD.sol", child "." (unreadableName 0xFF)⟩], []) := by
  have hfinds : Entry.findsAmong false "." twinSources.top
      = [([unreadableName 0xFE], none), ([unreadableName 0xFF], none)] := by decide +kernel
  have hsources : sourceNames "." [] [[unreadableName 0xFE], [unreadableName 0xFF]]
      = [[unreadableName 0xFE], [unreadableName 0xFF]] := by
    unfold sourceNames
    rw [List.mergeSort_of_pairwise (by decide +kernel)]
    decide +kernel
  have hshown : [[unreadableName 0xFE], [unreadableName 0xFF]].map (ofNames ".")
      = [⟨"\uFFFD.sol", child "." (unreadableName 0xFE)⟩,
        ⟨"\uFFFD.sol", child "." (unreadableName 0xFF)⟩] := by decide +kernel
  rw [discover_eq linkless_twinSources (Files.lookup_here rfl) exclusions_default]
  dsimp only
  rw [hfinds, ← hshown]
  show Except.ok ((sourceNames "." [] [[unreadableName 0xFE], [unreadableName 0xFF]]).map _, _) = _
  rw [hsources]
  rfl

/-- A source in a directory below another one. -/
def deepSources : Files where
  top := [("contracts", .dir [("subdirectory", .dir [("A.sol", .file .empty none)])])]

/-- A root of `deepSources` that leaves no room for the name of a directory
below it. -/
def longRoot : RawText :=
  Files.heres 2040 "contracts"

theorem linkless_deepSources : (Entry.dir deepSources.top).Linkless := by
  have hone : ∀ {name : RawText} {entry : Entry}, IsNormalName name → entry.Linkless →
      (Entry.dir [(name, entry)]).Linkless := fun hname hentry =>
    .dir (by simp) (by simpa using hname) (by simpa using hentry)
  exact hone (by decide +kernel) (hone (by decide +kernel) (hone (by decide +kernel)
    (.file .empty none)))

theorem longRoot_lookup :
    deepSources.lookup longRoot
      = .ok (["contracts"], .dir [("subdirectory", .dir [("A.sol", .file .empty none)])]) := by
  have hshort : longRoot.bytes.length ≤ Files.longestPath := by
    rw [longRoot, Files.length_heres]
    decide
  refine Files.lookup_heres rfl rfl hshort
    (Files.lookup_eq_ok_iff.2 ⟨by decide, by decide, ?_, rfl⟩)
  rw [show Files.segments "contracts" = [("contracts" : RawText)] by decide +kernel,
    show Files.startOf deepSources.workingDir "contracts" = .top from rfl,
    Files.follow_name rfl (by decide) (by decide) rfl (by simp), Files.follow_nil]
  rfl

theorem deepSources_discover :
    discover deepSources longRoot {}
      = .ok ([], [shutWarning longRoot (["subdirectory"], .nameTooLong)]) := by
  have hlong : Files.isTooLong (child longRoot "subdirectory") = true := by
    have hlength := @length_add_le_child "subdirectory" longRoot (by decide)
    rw [longRoot, Files.length_heres] at hlength
    exact decide_eq_true (Nat.lt_of_lt_of_le (by decide) hlength)
  have hinner : (Entry.dir [("subdirectory", .dir [("A.sol", .file .empty none)])]).Linkless :=
    (linkless_deepSources.of_get? (Files.entry?_of_lookup longRoot_lookup)).1
  have hfinds : Entry.findsAmong false longRoot
        [("subdirectory", .dir [("A.sol", .file .empty none)])]
      = [([("subdirectory" : RawText)], some FileError.nameTooLong)] := by
    have hvisible : isHiddenName "subdirectory" = false := by decide
    simp [Entry.findsAmong, Entry.finds, hvisible, hlong]
  have hnone : sourceNames longRoot [] [] = [] := by simp [sourceNames]
  rw [discover_eq hinner longRoot_lookup exclusions_default]
  dsimp only
  rw [hfinds]
  show Except.ok ((sourceNames longRoot [] []).map _, _) = _
  rw [hnone]
  rfl

/-- A directory that may not be opened. -/
def sealedSources : Files where
  top := [("vault", .locked true)]

theorem linkless_sealedSources : (Entry.dir sealedSources.top).Linkless :=
  .dir (by simp [sealedSources]) (by decide +kernel) (by simpa [sealedSources] using .locked true)

theorem sealedSources_discover :
    discover sealedSources "." {} = .ok ([], [shutWarning "." (["vault"], .denied)]) := by
  have hfinds : Entry.findsAmong false "." sealedSources.top
      = [([("vault" : RawText)], some FileError.denied)] := by decide +kernel
  have hnone : sourceNames "." [] [] = [] := by simp [sourceNames]
  rw [discover_eq linkless_sealedSources (Files.lookup_here rfl) exclusions_default]
  dsimp only
  rw [hfinds]
  show Except.ok ((sourceNames "." [] []).map _, _) = _
  rw [hnone]
  rfl

/-- Without links, two sources may still have one relative path, a source may
lie too deep to be found though its root can be opened, and a directory that
cannot be opened is warned of. -/
theorem twin_deep_and_sealed_sources :
    ((Entry.dir twinSources.top).Linkless
      ∧ ∃ a b, discover twinSources "." {} = .ok ([a, b], []) ∧ a ≠ b
        ∧ ¬ utf8 a.relative.toList < utf8 b.relative.toList)
    ∧ ((Entry.dir deepSources.top).Linkless
      ∧ (∃ entries, deepSources.lookup longRoot = .ok (["contracts"], .dir entries))
      ∧ (deepSources.entry? ["contracts", "subdirectory", "A.sol"]).any Entry.isFile = true
      ∧ ∃ warning, discover deepSources longRoot {} = .ok ([], [warning]))
    ∧ (Entry.dir sealedSources.top).Linkless
      ∧ ∃ warning, discover sealedSources "." {} = .ok ([], [warning]) := by
  refine ⟨⟨linkless_twinSources, _, _, twinSources_discover, ?_, List.lt_irrefl _⟩,
    ⟨linkless_deepSources, ⟨_, longRoot_lookup⟩, rfl, _, deepSources_discover⟩,
    linkless_sealedSources, _, sealedSources_discover⟩
  decide

end SourceFile

end ContractDocs
