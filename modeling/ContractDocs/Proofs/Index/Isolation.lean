/-
A file that cannot be indexed is isolated: the build goes on as if the file
had not been found, but for one error that names it.

# What carries over

Nothing that indexing does looks at the diagnostics collected before, and no
diagnostic is ever taken back. So indexing commutes with putting diagnostics
in front of those an index has (`after`), record by record, file by file, and
over a list of files (`addFiles_after`). A failure that is passed over changes
an index by one diagnostic, and what follows is the same up to it
(`addFiles_skip_failing`).

# Which failure ends a build

When failures are not passed over, the failure of a build is that of the first
file that has one (`addFiles_abort_snd`). Files are found in the order of
their relative paths (`SourceFile.discover_sorted`), so this is the failing
file with the least path.
-/
import ContractDocs.Index.Basic
import ContractDocs.Proofs.Accepted
import ContractDocs.Proofs.Files.Lookup
import ContractDocs.Proofs.Source.Nesting

namespace ContractDocs

namespace Index

variable {index : Index} {policy : FilePolicy}
  {read : SourceFile → Except Failure FileResult}

-- ================================================== earlier diagnostics

/-- The index with some diagnostics raised before its own. -/
def after (earlier : List Diagnostic) (index : Index) : Index :=
  { index with diagnostics := earlier ++ index.diagnostics }

theorem report_after (earlier : List Diagnostic) (index : Index) (d : Diagnostic) :
    (index.after earlier).report d = (index.report d).after earlier := by
  simp [after, report]

/-- Adding a record adds at most one diagnostic. -/
theorem addRecord_eq (file : String) (index : Index) (record : Record) :
    addRecord file index record
      = ⟨(index.registry.insert record).1, index.diagnostics
        ++ (((index.registry.insert record).2.duplicateOf.bind
          (index.registry.insert record).1.get?).map (duplicate file record)).toList⟩ := by
  unfold addRecord
  generalize index.registry.insert record = inserted
  obtain ⟨registry, inserted⟩ := inserted
  dsimp only
  cases inserted.duplicateOf.bind registry.get? with
  | none => simp
  | some first => rfl

theorem addRecord_after (earlier : List Diagnostic) (file : String) (index : Index)
    (record : Record) :
    addRecord file (index.after earlier) record
      = (addRecord file index record).after earlier := by
  rw [addRecord_eq, addRecord_eq]
  simp [after]

theorem addRecords_after (earlier : List Diagnostic) (file : String)
    (records : List Record) :
    ∀ index : Index, records.foldl (addRecord file) (index.after earlier)
      = (records.foldl (addRecord file) index).after earlier := by
  induction records with
  | nil => intro index; rfl
  | cons record records ih =>
      intro index
      rw [List.foldl_cons, List.foldl_cons, addRecord_after, ih]

theorem addFile_after (earlier : List Diagnostic) (index : Index) (file : String)
    (result : FileResult) :
    (index.after earlier).addFile file result
      = (index.addFile file result).after earlier := by
  unfold addFile
  rw [← addRecords_after]
  cases result.recovered with
  | false => simp [after]
  | true => simp [after, report]

-- ============================================================== one file

theorem addFiles_cons_ok {file : SourceFile} {result : FileResult}
    (hread : read file = .ok result) (rest : List SourceFile) :
    addFiles policy read index (file :: rest)
      = addFiles policy read (index.addFile file.relative result) rest := by
  rw [addFiles, hread]

/-- A failure that only its file is lost by can be passed over. -/
theorem addFiles_cons_skip {file : SourceFile} {failure : Failure}
    (hread : read file = .error failure) (hscoped : failure.isFileScoped = true)
    (rest : List SourceFile) :
    addFiles .skip read index (file :: rest)
      = addFiles .skip read (index.report (.ofFileFailure file.relative failure)) rest := by
  rw [addFiles, hread]
  simp [hscoped]

/-- Any other failure ends the indexing. -/
theorem addFiles_cons_stop {file : SourceFile} {failure : Failure}
    (hread : read file = .error failure)
    (hstop : ¬ (failure.isFileScoped = true ∧ policy = .skip)) (rest : List SourceFile) :
    addFiles policy read index (file :: rest) = (index, some failure) := by
  rw [addFiles, hread]
  simp only [Bool.and_eq_true, decide_eq_true_eq]
  rw [if_neg hstop]

-- =========================================================== lists of files

/-- Indexing does not look at the diagnostics raised before it. -/
theorem addFiles_after (earlier : List Diagnostic) (files : List SourceFile) :
    ∀ index : Index, addFiles policy read (index.after earlier) files
      = ((addFiles policy read index files).1.after earlier,
        (addFiles policy read index files).2) := by
  induction files with
  | nil => intro index; rfl
  | cons file files ih =>
      intro index
      cases hread : read file with
      | ok result =>
          rw [addFiles_cons_ok hread, addFiles_cons_ok hread, addFile_after, ih]
      | error failure =>
          by_cases hpass : failure.isFileScoped = true ∧ policy = .skip
          · obtain ⟨hscoped, rfl⟩ := hpass
            rw [addFiles_cons_skip hread hscoped, addFiles_cons_skip hread hscoped,
              report_after, ih]
          · rw [addFiles_cons_stop hread hpass, addFiles_cons_stop hread hpass]

/-- Indexing goes on behind the files before, unless one of them ended it. -/
theorem addFiles_append (before rest : List SourceFile) :
    ∀ index : Index, addFiles policy read index (before ++ rest)
      = match addFiles policy read index before with
        | (next, none) => addFiles policy read next rest
        | (stopped, some failure) => (stopped, some failure) := by
  induction before with
  | nil => intro index; rfl
  | cons file before ih =>
      intro index
      rw [List.cons_append]
      cases hread : read file with
      | ok result => rw [addFiles_cons_ok hread, addFiles_cons_ok hread, ih]
      | error failure =>
          by_cases hpass : failure.isFileScoped = true ∧ policy = .skip
          · obtain ⟨hscoped, rfl⟩ := hpass
            rw [addFiles_cons_skip hread hscoped, addFiles_cons_skip hread hscoped, ih]
          · rw [addFiles_cons_stop hread hpass, addFiles_cons_stop hread hpass]

/-- One build ends like the other, with the same records, and has one
diagnostic more, right behind those raised `earlier`. -/
structure AddsOne (earlier : List Diagnostic) (extra : Diagnostic)
    (without whole : Index × Option Failure) : Prop where
  outcome : whole.2 = without.2
  registry : whole.1.registry = without.1.registry
  diagnostics : ∃ later, without.1.diagnostics = earlier ++ later
    ∧ whole.1.diagnostics = earlier ++ extra :: later

/-- A failing file that is reached and passed over adds one error, in the
place the file has in the order, and changes nothing else. -/
theorem addFiles_skip_failing {before rest : List SourceFile} {file : SourceFile}
    {failure : Failure} (hreached : (addFiles .skip read index before).2 = none)
    (hread : read file = .error failure) (hscoped : failure.isFileScoped = true) :
    AddsOne (addFiles .skip read index before).1.diagnostics
      (.ofFileFailure file.relative failure)
      (addFiles .skip read index (before ++ rest))
      (addFiles .skip read index (before ++ file :: rest)) := by
  rw [addFiles_append, addFiles_append]
  generalize addFiles .skip read index before = reached at hreached ⊢
  obtain ⟨next, stopped⟩ := reached
  subst hreached
  dsimp only
  rw [addFiles_cons_skip hread hscoped]
  -- both go on from the same registry, behind what was raised before
  have hwithout : next = after next.diagnostics ⟨next.registry, []⟩ := by
    simp [after]
  have hwhole : next.report (.ofFileFailure file.relative failure)
      = after (next.diagnostics ++ [.ofFileFailure file.relative failure])
        ⟨next.registry, []⟩ := by
    simp [after, report]
  rw [hwhole, addFiles_after]
  conv => arg 3; rw [hwithout, addFiles_after]
  exact ⟨rfl, rfl, _, rfl, by simp [after]⟩

-- ============================================================ failed files

/-- Reading a file fails in ways that only this file is lost by. -/
theorem isFileScoped_of_readFile {files : Files} {file : SourceFile}
    {failure : Failure} (h : readFile files file = .error failure) :
    failure.isFileScoped = true := by
  unfold readFile at h
  cases hread : files.read file.opened with
  | error cause =>
      rw [hread] at h
      cases h
      rfl
  | ok found =>
      rw [hread] at h
      dsimp only at h
      split at h
      · cases h
      · cases h
        rfl

/-- Where every failure can be passed over, nothing ends the indexing. -/
theorem addFiles_skip_snd
    (hscoped : ∀ file failure, read file = .error failure → failure.isFileScoped = true)
    (files : List SourceFile) :
    ∀ index : Index, (addFiles .skip read index files).2 = none := by
  induction files with
  | nil => intro index; rfl
  | cons file files ih =>
      intro index
      cases hread : read file with
      | ok result => rw [addFiles_cons_ok hread, ih]
      | error failure => rw [addFiles_cons_skip hread (hscoped file failure hread), ih]

/-- The failure of a file, when it cannot be indexed. -/
def failure? (read : SourceFile → Except Failure FileResult) (file : SourceFile) :
    Option Failure :=
  match read file with
  | .ok _ => none
  | .error failure => some failure

theorem failure?_eq_some_iff {file : SourceFile} {failure : Failure} :
    failure? read file = some failure ↔ read file = .error failure := by
  unfold failure?
  cases read file with
  | ok result => simp
  | error failure' => simp

/-- Where no failure is passed over, the first one ends the indexing. -/
theorem addFiles_abort_snd (files : List SourceFile) :
    ∀ index : Index,
      (addFiles .abort read index files).2 = files.findSome? (failure? read) := by
  induction files with
  | nil => intro index; rfl
  | cons file files ih =>
      intro index
      cases hread : read file with
      | ok result =>
          have hnone : failure? read file = none := by rw [failure?, hread]
          rw [addFiles_cons_ok hread, ih, List.findSome?_cons_of_isNone (by rw [hnone]; rfl)]
      | error failure =>
          rw [addFiles_cons_stop hread (by simp),
            List.findSome?_cons, failure?_eq_some_iff.2 hread]

end Index

-- ========================================================= found in order

namespace SourceFile

variable {files : Files} {root : RawText} {config : Config} {sources : List SourceFile}
  {warnings : List Diagnostic}

/-- What is found, and what is warned of, is what a walk comes across. -/
theorem eq_of_discover (h : discover files root config = .ok (sources, warnings)) :
    ∃ excluded sightings, sources = ofSightings root excluded sightings
      ∧ warnings = sightings.filterMap (·.diagnostic? root) := by
  unfold discover at h
  split at h
  · cases h
  · obtain ⟨excluded, -, hok⟩ := bind_eq_ok_iff.1 h
    cases hok
    exact ⟨excluded, _, rfl, rfl⟩
  · cases h
  · cases h

/-- Sources are found in the order of their relative paths. -/
theorem discover_sorted (h : discover files root config = .ok (sources, warnings)) :
    sources.Pairwise fun a b => a.relative ≤ b.relative := by
  obtain ⟨excluded, sightings, rfl, -⟩ := eq_of_discover h
  unfold ofSightings
  refine (List.pairwise_mergeSort ?_ ?_ _).imp of_decide_eq_true
  · intro a b c hab hbc
    exact decide_eq_true (String.le_trans (of_decide_eq_true hab) (of_decide_eq_true hbc))
  · intro a b
    simpa using String.le_total a.relative b.relative

end SourceFile

-- ============================================================ isolation

namespace Index

/-- The build that takes these files, and the warnings of the search for
them, for what is found. -/
def buildOver (files : Files) (config : Config) (index : Index)
    (warnings : List Diagnostic) (sources : List SourceFile) : Index × Option Failure :=
  addFiles config.onFileError (readFile files)
    { index with diagnostics := index.diagnostics ++ warnings } sources

theorem extend_of_discover {files : Files} {root : RawText} {config : Config}
    {sources : List SourceFile} {warnings : List Diagnostic}
    (h : SourceFile.discover files root config = .ok (sources, warnings)) (index : Index) :
    extend files root config index = buildOver files config index warnings sources := by
  rw [extend, h]
  rfl

/-- The first failing file of a sorted list has the least path of those that
fail. -/
theorem relative_le_of_first {files : Files} {before rest : List SourceFile}
    {file : SourceFile}
    (hsorted : (before ++ file :: rest).Pairwise fun a b => a.relative ≤ b.relative)
    (hbefore : ∀ g ∈ before, failure? (readFile files) g = none)
    {other : SourceFile} (hother : other ∈ before ++ file :: rest) {failure : Failure}
    (hread : readFile files other = .error failure) : file.relative ≤ other.relative := by
  rcases List.mem_append.1 hother with hmem | hmem
  · have hnone := hbefore other hmem
    rw [failure?_eq_some_iff.2 hread] at hnone
    cases hnone
  · rcases List.mem_cons.1 hmem with rfl | hmem
    · exact String.le_refl _
    · exact (List.pairwise_cons.1 (List.pairwise_append.1 hsorted).2.1).1 other hmem

/-- A failing file is isolated. Where failures are passed over, a build with a
file that cannot be indexed ends like the build without it, with the same
registry, and has one more diagnostic, an error for that file in its place.
Where they are not, a build over what is found fails with the failure of the
file that comes first, by relative path, among those that have one. -/
theorem failing_file_isolated (files : Files) (config : Config) (index : Index)
    (warnings : List Diagnostic) (sources : List SourceFile) :
    (config.onFileError = .skip →
        ∀ before file rest failure, sources = before ++ file :: rest →
          readFile files file = .error failure → failure.isFileScoped = true →
          AddsOne (buildOver files config index warnings before).1.diagnostics
              (.ofFileFailure file.relative failure)
              (buildOver files config index warnings (before ++ rest))
              (buildOver files config index warnings sources)
            ∧ (Diagnostic.ofFileFailure file.relative failure).severity = .error
            ∧ (Diagnostic.ofFileFailure file.relative failure).place.map Place.file
              = some file.relative)
      ∧ ∀ root, SourceFile.discover files root config = .ok (sources, warnings) →
        extend files root config index = buildOver files config index warnings sources
          ∧ (config.onFileError = .abort → (∃ file ∈ sources, ∃ failure,
              readFile files file = .error failure) →
            ∃ file ∈ sources, ∃ failure, readFile files file = .error failure
              ∧ (∀ other ∈ sources, ∀ failure', readFile files other = .error failure' →
                file.relative ≤ other.relative)
              ∧ (extend files root config index).2 = some failure) := by
  constructor
  · rintro hskip before file rest failure rfl hread hscoped
    refine ⟨?_, rfl, rfl⟩
    unfold buildOver
    rw [hskip]
    refine addFiles_skip_failing (addFiles_skip_snd ?_ before _) hread hscoped
    exact fun _ _ h => isFileScoped_of_readFile h
  · intro root hfound
    refine ⟨extend_of_discover hfound index, ?_⟩
    rintro habort ⟨failing, hfailing, failure, hfailure⟩
    have hsome : (sources.findSome? (failure? (readFile files))).isSome = true := by
      rw [List.isSome_findSome?, List.any_eq_true]
      exact ⟨failing, hfailing, by rw [failure?_eq_some_iff.2 hfailure]; rfl⟩
    obtain ⟨first, hfirst⟩ := Option.isSome_iff_exists.1 hsome
    obtain ⟨before, file, rest, hsources, hread, hbefore⟩ :=
      List.findSome?_eq_some_iff.1 hfirst
    refine ⟨file, by simp [hsources], first, failure?_eq_some_iff.1 hread, ?_, ?_⟩
    · intro other hother failure' hread'
      have hsorted := SourceFile.discover_sorted hfound
      rw [hsources] at hsorted hother
      exact relative_le_of_first hsorted hbefore hother hread'
    · rw [extend_of_discover hfound, buildOver, habort, addFiles_abort_snd, hfirst]

/-- A contract inside a contract, and a library in the file behind it. -/
def mixedTree : Files where
  top := [("a.sol", .file Source.nestedFile.bytes (some ⟨Source.nestedFile.root, true⟩)),
    ("b.sol", .file "library L\x7b\x7d".toUTF8 (some ⟨⟨"source_file", true, none, 0, 11, 0,
      [⟨"library_declaration", true, none, 0, 11, 0,
        [⟨"identifier", true, some "name", 8, 9, 0, []⟩]⟩]⟩, false⟩))]

theorem mixedTree_readFile :
    readFile mixedTree ⟨"a.sol", "./a.sol"⟩ = .error (.nesting ⟨"a.sol", 2, "B", "A"⟩) := by
  have hlookup : mixedTree.lookup "./a.sol"
      = .ok (["a.sol"], .file Source.nestedFile.bytes (some ⟨Source.nestedFile.root, true⟩)) := by
    rw [show ("./a.sol" : RawText) = Path.child "." "a.sol" by decide]
    exact Files.lookup_child (Files.lookup_here rfl) (by decide) (by decide) rfl nofun (by decide)
  have hread : mixedTree.read "./a.sol"
      = .ok (Source.nestedFile.bytes, some ⟨Source.nestedFile.root, true⟩) := by
    rw [Files.read, hlookup]
    rfl
  have hnested : Source.nestedFile.definitions = .error ⟨"a.sol", 2, "B", "A"⟩ := by
    decide +kernel
  rw [readFile, hread]
  simp only [Option.getD_some]
  rw [show Source.mk "a.sol" Source.nestedFile.bytes Source.nestedFile.root true
    = Source.nestedFile from rfl, hnested]

theorem mixedTree_discover (config : Config) (hconfig : config.excludedPaths = []) :
    SourceFile.discover mixedTree "." config
      = .ok ([⟨"a.sol", "./a.sol"⟩, ⟨"b.sol", "./b.sol"⟩], []) := by
  have hlookup : mixedTree.lookup "." = .ok (.top, .dir mixedTree.top) :=
    Files.lookup_here rfl
  have hwalk : mixedTree.walk config.includeHidden (Entry.dirCounts mixedTree.top + 2)
      ⟨".", .top⟩ [] mixedTree.top = [.file "./a.sol", .file "./b.sol"] := by
    unfold mixedTree
    simp only [Files.walk, List.cons_append, List.nil_append]
    rfl
  have hexcluded : config.exclusions = .ok [] := by
    rw [Config.exclusions, hconfig]
    rfl
  have hsources : SourceFile.ofSightings "." [] [.file "./a.sol", .file "./b.sol"]
      = [⟨"a.sol", "./a.sol"⟩, ⟨"b.sol", "./b.sol"⟩] := by
    unfold SourceFile.ofSightings
    rw [List.mergeSort_of_pairwise (by decide +kernel)]
    decide +kernel
  rw [SourceFile.discover, hlookup]
  dsimp only
  rw [hexcluded, hwalk, ← hsources]
  rfl

/-- Passed over, the nested contract costs its file and nothing else; not
passed over, it ends the build. -/
theorem mixedTree_isolated :
    AddsOne [] (.ofFileFailure "a.sol" (.nesting ⟨"a.sol", 2, "B", "A"⟩))
        (buildOver mixedTree {} {} [] [⟨"b.sol", "./b.sol"⟩]) (extend mixedTree "." {} {})
      ∧ ∃ failure, (extend mixedTree "." { onFileError := .abort } {}).2 = some failure := by
  have hfound := mixedTree_discover {} rfl
  have hfoundStop := mixedTree_discover { onFileError := .abort } rfl
  obtain ⟨hskip, hextend⟩ := failing_file_isolated mixedTree {} {} []
    [⟨"a.sol", "./a.sol"⟩, ⟨"b.sol", "./b.sol"⟩]
  obtain ⟨-, hstop⟩ := failing_file_isolated mixedTree { onFileError := .abort } {} []
    [⟨"a.sol", "./a.sol"⟩, ⟨"b.sol", "./b.sol"⟩]
  constructor
  · rw [(hextend "." hfound).1]
    exact (hskip rfl [] ⟨"a.sol", "./a.sol"⟩ [⟨"b.sol", "./b.sol"⟩] _ rfl
      mixedTree_readFile rfl).1
  · obtain ⟨-, -, failure, -, -, houtcome⟩ := (hstop "." hfoundStop).2 rfl
      ⟨_, List.mem_cons_self .., _, mixedTree_readFile⟩
    exact ⟨failure, houtcome⟩

end Index

end ContractDocs
