/-
The report lists every record exactly once. Its headings come from a scan of
the records, what stands under a heading comes from the file index; that the
two fit together is what `Grouped` says of the groups of a report, and
`Registry.Refines` is what makes it hold after every run.

A heading is a file in the place of its first record (`sorted_eraseDups`).
Of the records under the headings, those of one file are those of one
heading (`filter_flatMap_filter`), so nothing is lost, repeated or moved
among the records of a file; that they are all the records, in another
order, is then a matter of counting (`perm_of_filter_eq`).
-/
import ContractDocs.Json.Access
import ContractDocs.Proofs.Registry.Refinement
import ContractDocs.Report.Index
import Mathlib.Data.List.Basic
import Mathlib.Data.List.Induction
import Mathlib.Data.List.Nodup

namespace ContractDocs

-- ============================================================ headings

section Headings

variable {κ : Type} [DecidableEq κ]

/-- Every key stands where it was first seen. -/
theorem sorted_eraseDups (keys : List κ) :
    keys.eraseDups.Pairwise fun a b => keys.idxOf a < keys.idxOf b := by
  induction keys using List.reverseRecOn with
  | nil => exact .nil
  | append_singleton keys key ih =>
      -- a key that was seen before keeps its place
      have hseen : ∀ a ∈ keys, (keys ++ [key]).idxOf a = keys.idxOf a :=
        fun a ha => List.idxOf_append_of_mem ha
      have hkeys : keys.eraseDups.Pairwise fun a b =>
          (keys ++ [key]).idxOf a < (keys ++ [key]).idxOf b := by
        refine ih.imp_of_mem fun {a b} ha hb hab => ?_
        rw [hseen a (List.mem_eraseDups.1 ha), hseen b (List.mem_eraseDups.1 hb)]
        exact hab
      rw [List.eraseDups_append]
      by_cases hmem : key ∈ keys
      · simpa [List.removeAll, hmem] using hkeys
      · have hlast : ([key].removeAll keys).eraseDups = [key] := by
          simp [List.removeAll, hmem, List.eraseDups_cons]
        rw [hlast, List.pairwise_append]
        refine ⟨hkeys, List.pairwise_singleton _ _, fun a ha b hb => ?_⟩
        have ha := List.mem_eraseDups.1 ha
        rw [List.mem_singleton.1 hb, hseen a ha, List.idxOf_append_of_notMem hmem]
        have hlt := List.idxOf_lt_length_of_mem ha
        omega

theorem nodup_eraseDups (keys : List κ) : keys.eraseDups.Nodup :=
  (sorted_eraseDups keys).imp fun {a b} hab heq => by
    subst heq
    exact Nat.lt_irrefl _ hab

end Headings

-- ============================================================= records

section Records

variable {α κ : Type} [DecidableEq κ] {key : α → κ} {keys : List κ} {items : List α}

/-- Among keys that are all different, one key picks one group. -/
theorem flatMap_ite_eq (hkeys : keys.Nodup) (k : κ) (group : List α) :
    (keys.flatMap fun k' => if k' = k then group else [])
      = if k ∈ keys then group else [] := by
  induction keys with
  | nil => rfl
  | cons k' keys ih =>
      obtain ⟨hnotin, hkeys⟩ := List.nodup_cons.1 hkeys
      rw [List.flatMap_cons, ih hkeys]
      by_cases hk : k' = k
      · subst hk
        simp [hnotin]
      · simp [hk, Ne.symm hk]

/-- The items of one key are those of the group of that key, in their
order. -/
theorem filter_flatMap_filter (hkeys : keys.Nodup) (hcover : ∀ x ∈ items, key x ∈ keys)
    (k : κ) :
    (keys.flatMap fun k' => items.filter (key · = k')).filter (key · = k)
      = items.filter (key · = k) := by
  have hgroup : ∀ k', (items.filter (key · = k')).filter (key · = k)
      = if k' = k then items.filter (key · = k) else [] := by
    intro k'
    rw [List.filter_filter]
    split
    · next h =>
        subst h
        simp
    · next h =>
        refine List.filter_eq_nil_iff.2 fun x _ hx => h ?_
        simp only [Bool.and_eq_true, decide_eq_true_eq] at hx
        exact hx.2.symm.trans hx.1
  rw [List.filter_flatMap]
  simp only [hgroup]
  rw [flatMap_ite_eq hkeys]
  split
  · rfl
  · next h =>
      refine (List.filter_eq_nil_iff.2 fun x hx hk => h ?_).symm
      rw [← of_decide_eq_true hk]
      exact hcover x hx

/-- Lists that agree on every key hold the same items. -/
theorem perm_of_filter_eq [DecidableEq α] {xs ys : List α}
    (h : ∀ k, xs.filter (key · = k) = ys.filter (key · = k)) : xs.Perm ys := by
  refine List.perm_iff_count.2 fun x => ?_
  have hx : decide (key x = key x) = true := decide_eq_true rfl
  rw [← List.count_filter (p := fun y => key y = key x) hx, h,
    List.count_filter (p := fun y => key y = key x) hx]

end Records

-- ============================================================== groups

namespace Report

/-- A heading of the report with the records under it. -/
structure Group where
  file : String
  records : List Record

/-- The groups hold every record once. -/
structure Grouped (groups : List Group) (records : List Record) : Prop where
  /-- The headings are the files of the records. -/
  headings : ∀ file, file ∈ groups.map Group.file ↔ ∃ r ∈ records, r.file = file
  /-- They are distinct, and stand in the order of first appearance. -/
  order : (groups.map Group.file).Pairwise fun f g =>
    (records.map Record.file).idxOf f < (records.map Record.file).idxOf g
  /-- Under a heading stand the records of that file, as they were inserted. -/
  under : ∀ group ∈ groups, group.records = records.filter (·.file = group.file)
  /-- Together they are the records in another order. -/
  perm : (groups.flatMap Group.records).Perm records
  /-- Records of one file keep the order they were inserted in. -/
  within : ∀ file, (groups.flatMap Group.records).filter (·.file = file)
    = records.filter (·.file = file)

variable {report : Report} {records : List Record}

/-- The headings of a report, with what the registry finds for each. -/
def groups (report : Report) : List Group :=
  report.files.map fun file => ⟨file, report.registry.ofFile file⟩

theorem map_file_groups (report : Report) :
    report.groups.map Group.file = report.files := by
  rw [groups, List.map_map]
  exact List.map_id _

theorem files_eq (h : report.registry.Refines records) :
    report.files = (records.map Record.file).eraseDups := by
  rw [files, h.toList]

/-- What the registry finds for a file are the records of that file. -/
theorem groups_eq (h : report.registry.Refines records) :
    report.groups = (records.map Record.file).eraseDups.map fun file =>
      ⟨file, records.filter (·.file = file)⟩ := by
  rw [groups, files_eq h]
  exact List.map_congr_left fun file _ => congrArg (Group.mk file) (h.mirrors.ofFile file)

theorem grouped_groups (h : report.registry.Refines records) :
    Grouped report.groups records := by
  have hfiles := files_eq h
  have hflat : report.groups.flatMap Group.records
      = report.files.flatMap fun file => records.filter (·.file = file) := by
    rw [groups_eq h, hfiles, List.flatMap_map]
  have hwithin : ∀ file, (report.groups.flatMap Group.records).filter (·.file = file)
      = records.filter (·.file = file) := by
    rw [hflat, hfiles]
    exact filter_flatMap_filter (nodup_eraseDups _) fun r hr =>
      List.mem_eraseDups.2 (List.mem_map_of_mem hr)
  refine ⟨fun file => ?_, ?_, fun group hgroup => ?_, perm_of_filter_eq hwithin, hwithin⟩
  · rw [map_file_groups, hfiles, List.mem_eraseDups, List.mem_map]
  · rw [map_file_groups, hfiles]
    exact sorted_eraseDups _
  · obtain ⟨file, -, rfl⟩ := List.mem_map.1 hgroup
    exact h.mirrors.ofFile file

-- ============================================================ the text

variable (colored : Bool)

/-- The lines before the first heading. -/
def opening (lookupPath : String) : List String :=
  ["", "  " ++ Paint.boldCyan.apply colored programName ++ " v" ++ version, "",
    "  " ++ Paint.dim.apply colored "Indexing: " ++ lookupPath, ""]

/-- The line of one record: its kind in a column twelve wide, its signature,
and the line it stands on in its file. Members stand deeper than contracts. -/
def entryLine (record : Record) : String :=
  let indent := match record.contract with
    | none => "    "
    | some _ => "      "
  indent ++ Paint.dim.apply colored (padRight 12 record.kind.name)
    ++ record.parts.render ++ "  " ++ Paint.dim.apply colored (":" ++ toString record.line)

theorem recordLine_eq_entryLine : recordLine colored = entryLine colored := by
  funext record
  obtain ⟨kind, file, parts, line, contract, doc, members⟩ := record
  cases contract with
  | none => rfl
  | some outer => rfl

/-- The lines of a group: its heading, its records and an empty line. -/
def Group.lines (group : Group) : List String :=
  ("  " ++ Paint.blue.apply colored group.file)
    :: group.records.map (entryLine colored) ++ [""]

/-- The last line, for these counts of records and files. -/
def closing (diagnostics : List Diagnostic) (records files : Nat) : String :=
  let errors := Diagnostic.count .error diagnostics
  let warnings := Diagnostic.count .warning diagnostics
  let status :=
    if 0 < errors then Paint.red.apply colored "✗ ERRORS" else Paint.green.apply colored "✓ OK"
  "  " ++ status ++ "  " ++ toString records ++ " records in " ++ toString files ++ " files  "
    ++ Paint.dim.apply colored
      ("(" ++ toString errors ++ " errors, " ++ toString warnings ++ " warnings)")

/-- The registry counts the records under the headings. -/
theorem size_eq (h : report.registry.Refines records) :
    report.registry.size = (report.groups.flatMap Group.records).length := by
  rw [(grouped_groups h).perm.length_eq]
  exact h.size

theorem length_files (report : Report) : report.files.length = report.groups.length := by
  rw [← map_file_groups, List.length_map]

/-- The text of a report is that of its groups, with their counts. -/
theorem render_eq (h : report.registry.Refines records) :
    report.render colored
      = String.join ((opening colored report.lookupPath
        ++ report.groups.flatMap (Group.lines colored)
        ++ report.diagnosticsLines colored
        ++ [closing colored report.diagnostics
          (report.groups.flatMap Group.records).length report.groups.length]).map
            (· ++ "\n")) := by
  have hlines : report.files.flatMap (report.fileLines colored)
      = report.groups.flatMap (Group.lines colored) := by
    unfold fileLines Group.lines
    rw [groups, List.flatMap_map, recordLine_eq_entryLine]
  have hsummary : report.summaryLine colored
      = closing colored report.diagnostics report.registry.size report.files.length := rfl
  rw [render, toLines, hlines, hsummary, size_eq h, length_files]
  rfl

/-- Text and JSON of a report are those of its groups, and the groups hold
every record once. -/
structure ListsOnce (report : Report) : Prop where
  grouped : Grouped report.groups report.registry.toList
  text : report.render colored
    = String.join ((opening colored report.lookupPath
      ++ report.groups.flatMap (Group.lines colored)
      ++ report.diagnosticsLines colored
      ++ [closing colored report.diagnostics
        (report.groups.flatMap Group.records).length report.groups.length]).map (· ++ "\n"))
  filesIndexed : (report.toJson.get? "files_indexed").bind Json.nat?
    = some report.groups.length
  recordCount : ((report.toJson.get? "summary").bind (·.get? "records")).bind Json.nat?
    = some (report.groups.flatMap Group.records).length

/-- The report lists every record exactly once. After any run of insertions
and clearings, its text consists of groups that hold every record once, under
the headings of their files in the order of first appearance; the counts in
the last line and in the JSON report are those of the headings and of the
records under them. -/
theorem run_lists_records_once (ops : List Registry.Op) (lookupPath : String)
    (diagnostics : List Diagnostic) (colored : Bool) :
    ListsOnce colored ⟨lookupPath, Registry.run ops, diagnostics⟩ := by
  generalize hreport : Report.mk lookupPath (Registry.run ops) diagnostics = report
  have h : report.registry.Refines report.registry.toList := by
    rw [← hreport, (Registry.refines_run ops).toList]
    exact Registry.refines_run ops
  refine ⟨grouped_groups h, render_eq colored h, ?_, ?_⟩
  · rw [← length_files]
    rfl
  · rw [← size_eq h]
    rfl

example :
    let record (kind : Kind) (file name : String) (line : Nat) (contract : Option String) :
        Registry.Op :=
      .insert { kind, file, parts := .typeLike ⟨name, []⟩, line, contract }
    render false ⟨"../contracts", Registry.run
        [record .contract "b.sol" "B" 1 none, record .library "a.sol" "A" 3 none,
          record .struct "b.sol" "S" 2 (some "B")], []⟩
      = "\n  soldoc v0.1.0\n\n  Indexing: ../contracts\n\n"
        ++ "  b.sol\n    contract    B  :1\n      struct      S  :2\n\n"
        ++ "  a.sol\n    library     A  :3\n\n"
        ++ "  ✓ OK  3 records in 2 files  (0 errors, 0 warnings)\n" := by
  intro record
  rw [render_eq false (Registry.refines_run _), groups_eq (Registry.refines_run _)]
  decide +kernel

end Report

end ContractDocs
