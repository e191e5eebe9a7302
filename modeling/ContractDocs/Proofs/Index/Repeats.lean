/-
Repeated declarations are reported exactly, and against the first one.

# What is the same

A scope key is a way to compare records (`Record.SameScope`): contract-like
declarations by name, across files and kinds, and members by everything that
tells them apart. The registry reports a record against the first one of its
scope (`Registry.duplicateOf_eq`), however often the scope was met since.

# What is indexed

The registry holds the records of the files that are indexed, in order, and no
other (`toList_addFiles`): of all files, or of those before the first that
cannot be indexed, as failures are passed over or not.

# What a build reports

`repeats` lists the records that come after another of their scope, each with
the first. An index keeps, from file to file, that the warnings for repeated
declarations among its diagnostics are those of this list, in order
(`Reports`). `Reports.addRecord` is the step, `Reports.addFiles` the run. No
other diagnostic of a build looks like such a warning
(`isRepeatWarning_of_walk`), so the warnings can be told from the diagnostics
alone.
-/
import ContractDocs.Proofs.Index.Isolation
import ContractDocs.Proofs.Registry.Duplicates
import ContractDocs.Proofs.Source.Outputs
import Mathlib.Data.Finset.Card
import Mathlib.Data.List.Basic

namespace ContractDocs

-- ========================================================== equal scopes

/-- Two declarations of the same thing: contract-like ones of one name, or
members that nothing tells apart. -/
def Record.SameScope (a b : Record) : Prop :=
  (a.kind.isContractLike = true ∧ b.kind.isContractLike = true
      ∧ a.name.getD "" = b.name.getD "")
    ∨ (a.kind.isContractLike = false ∧ b.kind.isContractLike = false
      ∧ a.file = b.file ∧ a.contract = b.contract ∧ a.kind = b.kind
      ∧ a.name = b.name ∧ a.paramTypes = b.paramTypes)

theorem ScopeKey.ofRecord_eq_iff {a b : Record} :
    ofRecord a = ofRecord b ↔ a.SameScope b := by
  unfold ofRecord Record.SameScope
  cases a.kind.isContractLike with
  | true =>
      cases b.kind.isContractLike with
      | true => simp
      | false => simp
  | false =>
      cases b.kind.isContractLike with
      | true => simp
      | false => simp

instance (a b : Record) : Decidable (a.SameScope b) :=
  decidable_of_iff _ ScopeKey.ofRecord_eq_iff

theorem ScopeKey.beq_ofRecord (a b : Record) :
    (ofRecord a == ofRecord b) = decide (a.SameScope b) := by
  rw [beq_eq_decide, decide_eq_decide]
  exact ofRecord_eq_iff

/-- Overloads are told apart by the types of their parameters. -/
theorem Record.SameScope.paramTypes {a b : Record} (h : a.SameScope b)
    (hkind : b.kind.isOverloadable = true) :
    a.kind = b.kind ∧ a.paramTypes = b.paramTypes := by
  have hmember : b.kind.isContractLike = false := by
    revert hkind
    cases b.kind <;> simp [Kind.isOverloadable, Kind.isContractLike]
  rcases h with ⟨-, hb, -⟩ | ⟨-, -, -, -, hk, -, htypes⟩
  · rw [hmember] at hb
    cases hb
  · exact ⟨hk, htypes⟩

-- ======================================================= the first of them

namespace Registry

/-- A record is reported against the first one of its scope. -/
theorem Remembers.duplicateOf_eq {registry : Registry} {records : List Record}
    (h : Remembers registry records) (record : Record) :
    (registry.insert record).2.duplicateOf
      = records.findIdx? fun r => r.SameScope record := by
  show registry.firsts[ScopeKey.ofRecord record]? = _
  rw [h]
  simp only [ScopeKey.beq_ofRecord]

/-- The report leads to the first record, also when one more was added. -/
theorem findIdx?_bind_getElem? (p : Record → Bool) (records : List Record)
    (record : Record) :
    ((records.findIdx? p).bind fun id => (records ++ [record])[id]?) = records.find? p := by
  cases hfind : records.findIdx? p with
  | none =>
      rw [List.findIdx?_eq_none_iff] at hfind
      rw [Option.bind_none, Eq.comm, List.find?_eq_none]
      intro r hr
      rw [hfind r hr]
      exact Bool.false_ne_true
  | some id =>
      obtain ⟨hid, hp, hbefore⟩ := List.findIdx?_eq_some_iff_getElem.1 hfind
      rw [Option.bind_some, List.getElem?_append_left hid, List.getElem?_eq_getElem hid,
        Eq.comm, List.find?_eq_some_iff_getElem]
      exact ⟨hp, id, hid, rfl, fun j hj => by simpa using hbefore j hj⟩

end Registry

-- ================================================================ repeats

/-- The records that come after another of their scope, in order, each with
the first one; `seen` are the records before the list. -/
def repeats (seen : List Record) : List Record → List (Record × Record)
  | [] => []
  | record :: rest =>
    ((seen.find? fun r => r.SameScope record).map (record, ·)).toList
      ++ repeats (seen ++ [record]) rest

theorem repeats_append (xs ys : List Record) :
    ∀ seen, repeats seen (xs ++ ys) = repeats seen xs ++ repeats (seen ++ xs) ys := by
  induction xs with
  | nil => intro seen; simp [repeats]
  | cons x xs ih => intro seen; simp [repeats, ih]

/-- One more record repeats the first of its scope, if there is one. -/
theorem repeats_concat (records : List Record) (record : Record) :
    repeats [] (records ++ [record])
      = repeats [] records
        ++ ((records.find? fun r => r.SameScope record).map (record, ·)).toList := by
  rw [repeats_append, List.nil_append, repeats, repeats, List.append_nil]

namespace Index

-- ==================================================== warnings for repeats

/-- A diagnostic that reports a repeated declaration, by its severity and its
first word. -/
def isRepeatWarning (d : Diagnostic) : Bool :=
  d.severity = .warning && "duplicate ".toList.isPrefixOf d.message.toList

theorem isRepeatWarning_duplicate (file : String) (record first : Record) :
    isRepeatWarning (duplicate file record first) = true := by
  simp [isRepeatWarning, duplicate, Diagnostic.warningAt, String.toList_append]

theorem isRepeatWarning_of_head {d : Diagnostic}
    (h : d.message.toList.head? ≠ some 'd') : isRepeatWarning d = false := by
  unfold isRepeatWarning
  cases hmessage : d.message.toList with
  | nil => simp
  | cons c rest =>
      have hc : c ≠ 'd' := by
        rintro rfl
        exact h (by rw [hmessage]; rfl)
      simp [List.isPrefixOf, Ne.symm hc]

/-- No warning of the walk begins like one for a repeated declaration: it
begins with the label of a kind, or says what could not be read. -/
theorem isRepeatWarning_of_walk {source : Source} {defs : Definitions}
    (h : source.definitions = .ok defs) {d : Diagnostic} (hd : d ∈ defs.diagnostics) :
    isRepeatWarning d = false := by
  obtain ⟨-, rfl⟩ := Source.definitions_eq_ok_iff.1 h
  obtain ⟨output, houtput, hwarning⟩ := List.mem_filterMap.1 hd
  obtain ⟨spot, -, hspot⟩ := List.mem_filterMap.1 houtput
  obtain ⟨kind, -, rfl⟩ := Option.map_eq_some_iff.1 hspot
  refine isRepeatWarning_of_head ?_
  split at hwarning
  · cases hwarning
    simp [Diagnostic.warningAt, String.toList_append]
  · next record hrecord =>
      split at hwarning
      · cases hwarning
      · split at hwarning
        · cases hwarning
        · cases hwarning
          cases kind <;> simp [Diagnostic.warningAt, String.toList_append, Kind.label, Kind.name]

theorem file_of_walk {source : Source} {defs : Definitions}
    (h : source.definitions = .ok defs) {record : Record} (hr : record ∈ defs.records) :
    record.file = source.path := by
  obtain ⟨-, rfl⟩ := Source.definitions_eq_ok_iff.1 h
  obtain ⟨output, houtput, hrecord⟩ := List.mem_filterMap.1 hr
  obtain ⟨spot, -, hspot⟩ := List.mem_filterMap.1 houtput
  obtain ⟨kind, -, rfl⟩ := Option.map_eq_some_iff.1 hspot
  split at hrecord
  · cases hrecord
  · next found hfound =>
      obtain ⟨parts, -, rfl⟩ := Option.map_eq_some_iff.1 hfound
      split at hrecord
      · cases hrecord
        rfl
      · split at hrecord
        · cases hrecord
          rfl
        · cases hrecord

/-- What a file yields: records that say they are from it, and no warning for
a repeated declaration. -/
structure FileResult.From (result : FileResult) (file : String) : Prop where
  records : ∀ record ∈ result.definitions.records, record.file = file
  diagnostics : ∀ d ∈ result.definitions.diagnostics, isRepeatWarning d = false

theorem from_of_readFile {files : Files} {file : SourceFile} {result : FileResult}
    (h : readFile files file = .ok result) : result.From file.relative := by
  unfold readFile at h
  split at h
  · cases h
  · dsimp only at h
    split at h
    · next hdefs =>
        cases h
        exact ⟨fun record hr => file_of_walk hdefs hr,
          fun d hd => isRepeatWarning_of_walk hdefs hd⟩
    · cases h

-- ======================================================== what is indexed

section

variable {index : Index} {records : List Record}

theorem refines_addRecord (h : Registry.Refines index.registry records) (file : String)
    (record : Record) :
    Registry.Refines (addRecord file index record).registry (records ++ [record]) := by
  rw [addRecord_eq]
  exact h.insert record

theorem refines_addRecords (file : String) (more : List Record) :
    ∀ {index : Index} {records : List Record}, Registry.Refines index.registry records →
      Registry.Refines (more.foldl (addRecord file) index).registry (records ++ more) := by
  induction more with
  | nil =>
      intro index records h
      rwa [List.append_nil]
  | cons record more ih =>
      intro index records h
      rw [List.foldl_cons, List.append_cons]
      exact ih (refines_addRecord h file record)

/-- A file adds its records, in order, behind those that are there. -/
theorem refines_addFile (h : Registry.Refines index.registry records) (file : String)
    (result : FileResult) :
    Registry.Refines (index.addFile file result).registry
      (records ++ result.definitions.records) := by
  unfold addFile
  refine refines_addRecords file _ ?_
  split
  · exact h
  · exact h

/-- The files that are indexed: all of them, or those before the first that
fails. -/
def indexed (files : Files) (policy : FilePolicy) (sources : List SourceFile) :
    List SourceFile :=
  match policy with
  | .skip => sources
  | .abort => sources.takeWhile fun file => (readFile files file).isOk

/-- The records of a file; one that cannot be indexed has none. -/
def recordsOf (files : Files) (file : SourceFile) : List Record :=
  match readFile files file with
  | .ok result => result.definitions.records
  | .error _ => []

theorem recordsOf_ok {files : Files} {file : SourceFile} {result : FileResult}
    (hread : readFile files file = .ok result) :
    recordsOf files file = result.definitions.records := by
  rw [recordsOf, hread]

theorem recordsOf_error {files : Files} {file : SourceFile} {failure : Failure}
    (hread : readFile files file = .error failure) : recordsOf files file = [] := by
  rw [recordsOf, hread]

/-- The registry holds the records of the files that are indexed, in order,
behind those that were there. -/
theorem refines_addFiles {files : Files} {policy : FilePolicy} (sources : List SourceFile) :
    ∀ {index : Index} {records : List Record}, Registry.Refines index.registry records →
      Registry.Refines (addFiles policy (readFile files) index sources).1.registry
        (records ++ (indexed files policy sources).flatMap (recordsOf files)) := by
  induction sources with
  | nil =>
      intro index records h
      cases policy <;> simpa [indexed, addFiles] using h
  | cons file sources ih =>
      intro index records h
      cases hread : readFile files file with
      | ok result =>
          have hindexed : (indexed files policy (file :: sources)).flatMap (recordsOf files)
              = result.definitions.records
                ++ (indexed files policy sources).flatMap (recordsOf files) := by
            cases policy <;>
              simp [indexed, hread, Except.isOk, Except.toBool, recordsOf_ok hread]
          rw [addFiles_cons_ok hread, hindexed, ← List.append_assoc]
          exact ih (refines_addFile h file.relative result)
      | error failure =>
          have hscoped := isFileScoped_of_readFile hread
          cases policy with
          | skip =>
              rw [addFiles_cons_skip hread hscoped, indexed, List.flatMap_cons,
                recordsOf_error hread, List.nil_append]
              exact ih h
          | abort =>
              rw [addFiles_cons_stop hread (by simp)]
              simpa [indexed, hread, Except.isOk, Except.toBool] using h

/-- From an empty registry on, it holds the records of the files that are
indexed and no other. -/
theorem toList_addFiles (files : Files) (policy : FilePolicy) (earlier : List Diagnostic)
    (sources : List SourceFile) :
    (addFiles policy (readFile files) ⟨.empty, earlier⟩ sources).1.registry.toList
      = (indexed files policy sources).flatMap (recordsOf files) := by
  have hempty : Registry.Refines (Index.mk .empty earlier).registry [] := Registry.refines_empty
  exact (refines_addFiles sources hempty).toList

end

-- =========================================================== the invariant

/-- The warnings for repeated declarations, among the diagnostics raised
behind the `earlier` ones, are those of the records the index has. -/
structure Reports (earlier : List Diagnostic) (index : Index) : Prop where
  refines : Registry.Refines index.registry index.registry.toList
  remembers : Registry.Remembers index.registry index.registry.toList
  warnings : ∃ raised, index.diagnostics = earlier ++ raised
    ∧ raised.filter isRepeatWarning
      = (repeats [] index.registry.toList).map fun p => duplicate p.1.file p.1 p.2

namespace Reports

variable {earlier : List Diagnostic} {index : Index}

theorem empty (earlier : List Diagnostic) : Reports earlier ⟨.empty, earlier⟩ :=
  ⟨Registry.refines_empty, Registry.remembers_empty, [], by simp, rfl⟩

/-- Other diagnostics make no difference. -/
theorem push (h : Reports earlier index) {ds : List Diagnostic}
    (hds : ∀ d ∈ ds, isRepeatWarning d = false) :
    Reports earlier { index with diagnostics := index.diagnostics ++ ds } := by
  obtain ⟨raised, hraised, hfilter⟩ := h.warnings
  refine ⟨h.refines, h.remembers, raised ++ ds, ?_, ?_⟩
  · simp [hraised]
  · rw [List.filter_append, hfilter, List.filter_eq_nil_iff.2, List.append_nil]
    intro d hd
    rw [hds d hd]
    exact Bool.false_ne_true

/-- One more record is reported when it repeats another, against the first. -/
theorem addRecord (h : Reports earlier index) (record : Record) :
    Reports earlier (Index.addRecord record.file index record) := by
  obtain ⟨raised, hraised, hfilter⟩ := h.warnings
  have hlist := (h.refines.insert record).toList
  have hfirst : ((index.registry.insert record).2.duplicateOf.bind
      (index.registry.insert record).1.get?)
        = index.registry.toList.find? fun r => r.SameScope record := by
    rw [h.remembers.duplicateOf_eq, ← Registry.findIdx?_bind_getElem? _ _ record]
    congr 1
    funext id
    exact (h.refines.insert record).get? id
  rw [addRecord_eq, hfirst]
  refine ⟨?_, ?_, raised ++ ((index.registry.toList.find? fun r =>
    r.SameScope record).map (duplicate record.file record)).toList, ?_, ?_⟩
  · show Registry.Refines (index.registry.insert record).1 _
    rw [hlist]
    exact h.refines.insert record
  · show Registry.Remembers (index.registry.insert record).1 _
    rw [hlist]
    exact h.remembers.insert h.refines.size record
  · simp [hraised]
  · show _ = (repeats [] (index.registry.insert record).1.toList).map _
    rw [hlist, repeats_concat, List.filter_append, hfilter, List.map_append]
    cases index.registry.toList.find? fun r => r.SameScope record with
    | none => rfl
    | some first => simp [isRepeatWarning_duplicate]

theorem addRecords {file : String} (records : List Record)
    (hfile : ∀ record ∈ records, record.file = file) :
    ∀ {index : Index}, Reports earlier index →
      Reports earlier (records.foldl (Index.addRecord file) index) := by
  induction records with
  | nil => intro index h; exact h
  | cons record records ih =>
      intro index h
      rw [List.forall_mem_cons] at hfile
      rw [List.foldl_cons, ← hfile.1]
      exact hfile.1 ▸ ih hfile.2 (hfile.1 ▸ h.addRecord record)

theorem addFile (h : Reports earlier index) {file : String} {result : FileResult}
    (hresult : result.From file) : Reports earlier (index.addFile file result) := by
  unfold Index.addFile
  refine addRecords _ hresult.records (push ?_ hresult.diagnostics)
  split
  · exact h.push (by simp [isRepeatWarning, recoveredNote])
  · exact h

/-- Indexing files keeps the reports exact, wherever it ends. -/
theorem addFiles {files : Files} {policy : FilePolicy} (sources : List SourceFile) :
    ∀ {index : Index}, Reports earlier index →
      Reports earlier (Index.addFiles policy (readFile files) index sources).1 := by
  induction sources with
  | nil => intro index h; exact h
  | cons file sources ih =>
      intro index h
      cases hread : readFile files file with
      | ok result =>
          rw [addFiles_cons_ok hread]
          exact ih (h.addFile (from_of_readFile hread))
      | error failure =>
          by_cases hpass : failure.isFileScoped = true ∧ policy = .skip
          · obtain ⟨hscoped, rfl⟩ := hpass
            rw [addFiles_cons_skip hread hscoped]
            exact ih (h.push (by simp [isRepeatWarning, Diagnostic.ofFileFailure]))
          · rw [addFiles_cons_stop hread hpass]
            exact h

end Reports

-- ======================================================== exact reports

/-- A contract, a library and an interface of one name, each in a file of its
own. -/
def namesakes : List Record :=
  [{ kind := .contract, file := "a.sol", parts := .typeLike ⟨"A", []⟩, line := 1 },
    { kind := .library, file := "b.sol", parts := .typeLike ⟨"A", []⟩, line := 2 },
    { kind := .interface, file := "c.sol", parts := .typeLike ⟨"A", []⟩, line := 3 }]

/-- The third one is reported against the first one, too. -/
example : ((namesakes.foldl (fun index record => addRecord record.file index record)
      {}).diagnostics.filter isRepeatWarning).map Diagnostic.message
    = ["duplicate library `A` at b.sol:2 (first declared at a.sol:1)",
      "duplicate interface `A` at c.sol:3 (first declared at a.sol:1)"] := by
  have hreports : Reports [] (namesakes.foldl (fun index record =>
      addRecord record.file index record) {}) :=
    (((Reports.empty []).addRecord _).addRecord _).addRecord _
  have hrecords : (namesakes.foldl (fun index record =>
      addRecord record.file index record) {}).registry.toList = namesakes := by
    have hempty : Registry.Refines ({} : Index).registry [] := Registry.refines_empty
    exact (refines_addRecord (refines_addRecord (refines_addRecord hempty "a.sol" _) "b.sol" _)
      "c.sol" _).toList
  obtain ⟨raised, hraised, hfilter⟩ := hreports.warnings
  rw [hraised, List.nil_append, hfilter, hrecords]
  decide +kernel

end Index

end ContractDocs
