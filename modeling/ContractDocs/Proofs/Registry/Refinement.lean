/-
The registry refines a plain list. Whatever was inserted since the registry
was last cleared is a list of records, `contents`, and every question the
registry answers through an index has the answer a scan of that list gives.

# The invariant

An index lists, under each key, the positions of the records with that key,
in increasing order (`Postings.Files`); the library has the positions of a
list as `List.findIdxs`. `Refines` asks this of every index at once, and
of the records that they are the list itself. `Refines.insert` and
`refines_clear` are the steps, `refines_run` the run.

# What follows

`Refines` says what the indexes hold. The answers need one more fact, that
looking up the positions of some records finds these records
(`filterMap_getElem?_findIdxs`), and for queries that no accepted record is
narrowed away (`filter_accepts_filter`). `Mirrors` collects the answers, and
`run_mirrors_contents` gives them for every run.
-/
import ContractDocs.Registry.Basic
import Mathlib.Data.List.Basic
import Mathlib.Data.List.Induction

namespace ContractDocs

-- =========================================================== one index

namespace Postings

variable {κ : Type} [BEq κ] [Hashable κ]

theorem under_empty (k : κ) : ({} : Postings κ).under k = #[] := by
  show (∅ : Std.HashMap κ (Array Nat)).getD k #[] = #[]
  exact Std.HashMap.getD_empty

/-- The index files every record of the list under its key, by position. -/
def Files (postings : Postings κ) (key : Record → κ) (records : List Record) :
    Prop :=
  ∀ k, (postings.under k).toList = records.findIdxs fun r => key r == k

theorem files_empty (key : Record → κ) : Files {} key [] := by
  intro k
  rw [under_empty]
  rfl

variable [LawfulBEq κ]

theorem under_file (postings : Postings κ) (key k : κ) (id : Nat) :
    (postings.file key id).under k
      = if key == k then (postings.under k).push id else postings.under k := by
  rw [under, file, Std.HashMap.getD_insert]
  split
  · next h => rw [eq_of_beq h]
  · rfl

/-- A record added at the end is filed under its position. -/
theorem Files.push {postings : Postings κ} {key : Record → κ}
    {records : List Record} {id : Nat} (h : postings.Files key records)
    (hid : id = records.length) (record : Record) :
    (postings.file (key record) id).Files key (records ++ [record]) := by
  intro k
  subst hid
  rw [under_file, List.findIdxs_append, List.findIdxs_singleton, ← h k]
  split
  · rw [Array.toList_push, Nat.zero_add]
  · rw [List.append_nil]

end Postings

namespace Registry

-- ======================================================== the invariant

/-- The registry holds these records, and every index files them. -/
structure Refines (registry : Registry) (records : List Record) : Prop where
  toList : registry.toList = records
  byKind : registry.byKind.Files Record.kind records
  byContractAndName : registry.byContractAndName.Files
    (fun r => (r.contract, r.name)) records
  byFile : registry.byFile.Files Record.file records

theorem refines_empty : Refines empty [] :=
  ⟨rfl, Postings.files_empty _, Postings.files_empty _, Postings.files_empty _⟩

theorem refines_clear (registry : Registry) : Refines registry.clear [] :=
  refines_empty

variable {registry : Registry} {records : List Record}

theorem Refines.size (h : Refines registry records) :
    registry.size = records.length := by
  rw [← h.toList]
  rfl

theorem Refines.get? (h : Refines registry records) (id : Nat) :
    registry.get? id = records[id]? := by
  rw [← h.toList]
  exact Array.getElem?_toList.symm

theorem Refines.insert (h : Refines registry records) (record : Record) :
    Refines (registry.insert record).1 (records ++ [record]) := by
  refine ⟨?_, h.byKind.push h.size record,
    h.byContractAndName.push h.size record, h.byFile.push h.size record⟩
  rw [← h.toList]
  exact Array.toList_push

-- ================================================================ runs

/-- What can happen to a registry. -/
inductive Op where
  | insert (record : Record)
  | clear

/-- One operation on the registry. -/
def step (registry : Registry) : Op → Registry
  | .insert record => (registry.insert record).1
  | .clear => registry.clear

/-- A registry after some operations. -/
def run (ops : List Op) : Registry :=
  ops.foldl step empty

/-- What one operation does to the list of records. -/
def keep (records : List Record) : Op → List Record
  | .insert record => records ++ [record]
  | .clear => []

/-- The records inserted since the last `clear`, in order. -/
def contents (ops : List Op) : List Record :=
  ops.foldl keep []

theorem Refines.step (h : Refines registry records) (op : Op) :
    Refines (registry.step op) (keep records op) := by
  cases op with
  | insert record => exact h.insert record
  | clear => exact refines_clear registry

theorem Refines.foldl (ops : List Op) :
    ∀ {registry : Registry} {records : List Record}, Refines registry records →
      Refines (ops.foldl Registry.step registry) (ops.foldl keep records) := by
  induction ops with
  | nil => intro registry records h; exact h
  | cons op ops ih => intro registry records h; exact ih (h.step op)

/-- Every run keeps the indexes in step with the list. -/
theorem refines_run (ops : List Op) : Refines (run ops) (contents ops) :=
  refines_empty.foldl ops

-- ============================================================= answers

/-- Looking up the positions of some records finds these records. -/
theorem filterMap_getElem?_findIdxs (p : Record → Bool) (records : List Record) :
    (records.findIdxs p).filterMap (records[·]?) = records.filter p := by
  induction records using List.reverseRecOn with
  | nil => rfl
  | append_singleton records record ih =>
      -- the positions found before are inside the shorter list
      have hold : (records.findIdxs p).filterMap ((records ++ [record])[·]?)
          = (records.findIdxs p).filterMap (records[·]?) := by
        refine List.filterMap_congr fun i hi => ?_
        have hlt : i < records.length := by
          simpa using List.lt_add_of_mem_findIdxs i hi
        exact List.getElem?_append_left hlt
      rw [List.findIdxs_append, List.filterMap_append, hold, ih,
        List.filter_append, List.findIdxs_singleton, Nat.zero_add]
      cases hp : p record with
      | false => simp [hp]
      | true => simp [hp]

/-- A look-up through an index is a scan for its key. -/
theorem Refines.lookup {κ : Type} [BEq κ] [LawfulBEq κ] [Hashable κ]
    (h : Refines registry records) {postings : Postings κ} {key : Record → κ}
    (hfiles : postings.Files key records) (k : κ) :
    registry.lookup (postings.under k) = records.filter fun r => key r == k := by
  rw [Registry.lookup, hfiles k, ← filterMap_getElem?_findIdxs]
  exact List.filterMap_congr fun id _ => h.get? id

/-- An index names records that exist. -/
theorem Refines.all_lt_size {κ : Type} [BEq κ] [LawfulBEq κ] [Hashable κ]
    (h : Refines registry records) {postings : Postings κ} {key : Record → κ}
    (hfiles : postings.Files key records) (k : κ) :
    (postings.under k).all (· < registry.size) = true := by
  rw [← Array.all_toList, hfiles k, List.all_eq_true, h.size]
  intro id hid
  simpa using List.lt_add_of_mem_findIdxs id hid

/-- Narrowing to records that include every accepted one changes nothing. -/
theorem filter_accepts_filter {query : Query} {p : Record → Bool}
    (h : ∀ r, query.accepts r = true → p r = true) (records : List Record) :
    (records.filter p).filter query.accepts = records.filter query.accepts := by
  rw [List.filter_filter]
  refine List.filter_congr fun r _ => ?_
  cases hr : query.accepts r with
  | false => rfl
  | true => rw [h r hr]; rfl

theorem kind_of_accepts {query : Query} {kind : Kind} {r : Record}
    (hkind : query.kind = some kind) (h : query.accepts r = true) :
    r.kind = kind := by
  simp only [Query.accepts, Bool.and_eq_true] at h
  have hagrees := h.1.1.1.1
  rw [hkind] at hagrees
  exact of_decide_eq_true hagrees

theorem file_of_accepts {query : Query} {file : String} {r : Record}
    (hfile : query.file = some file) (h : query.accepts r = true) :
    r.file = file := by
  simp only [Query.accepts, Bool.and_eq_true] at h
  have hagrees := h.1.1.2
  rw [hfile] at hagrees
  exact of_decide_eq_true hagrees

/-- A query has the answer of a full scan, whichever index narrows it. -/
theorem Refines.select (h : Refines registry records) (query : Query) :
    registry.select query = records.filter query.accepts := by
  unfold Registry.select
  cases hfile : query.file with
  | some file =>
      show (registry.ofFile file).filter query.accepts = _
      rw [ofFile, h.lookup h.byFile]
      exact filter_accepts_filter
        (fun r hr => beq_iff_eq.2 (file_of_accepts hfile hr)) records
  | none =>
      cases hkind : query.kind with
      | some kind =>
          show (registry.ofKind kind).filter query.accepts = _
          rw [ofKind, h.lookup h.byKind]
          exact filter_accepts_filter
            (fun r hr => beq_iff_eq.2 (kind_of_accepts hkind hr)) records
      | none =>
          show registry.toList.filter query.accepts = _
          rw [h.toList]

/-- Every answer of the registry is the answer of the list. -/
structure Mirrors (registry : Registry) (records : List Record) : Prop where
  size : registry.size = records.length
  toList : registry.toList = records
  get? : ∀ id, registry.get? id = records[id]?
  ofKind : ∀ kind, registry.ofKind kind = records.filter (·.kind = kind)
  ofContractAndName : ∀ contract name, registry.ofContractAndName contract name
    = records.filter fun r => r.contract = contract ∧ r.name = name
  ofFile : ∀ file, registry.ofFile file = records.filter (·.file = file)
  select : ∀ query, registry.select query = records.filter query.accepts
  membersOf : ∀ file contract, registry.membersOf file contract
    = records.filter fun r => (∀ f ∈ file, r.file = f) ∧ r.contract = some contract

theorem Refines.membersOf (h : Refines registry records) (file : Option String)
    (contract : String) :
    registry.membersOf file contract
      = records.filter fun r =>
        (∀ f ∈ file, r.file = f) ∧ r.contract = some contract := by
  rw [Registry.membersOf, h.select]
  refine List.filter_congr fun r _ => ?_
  cases file with
  | none => simp [Query.accepts, Query.agrees]
  | some f => simp [Query.accepts, Query.agrees]

theorem Refines.mirrors (h : Refines registry records) :
    Mirrors registry records where
  size := h.size
  toList := h.toList
  get? := h.get?
  ofKind kind := by
    rw [Registry.ofKind, h.lookup h.byKind]
    simp only [beq_eq_decide]
  ofContractAndName contract name := by
    rw [Registry.ofContractAndName, h.lookup h.byContractAndName]
    simp only [beq_eq_decide, Prod.mk.injEq]
  ofFile file := by
    rw [Registry.ofFile, h.lookup h.byFile]
    simp only [beq_eq_decide]
  select := h.select
  membersOf := h.membersOf

/-- The registry refines a plain list. After any run of insertions and
clearings it answers like the list of what was inserted since the last
clearing, and no index names a record that is not there. One more record gets
the next position, behind records that stay what they were. -/
theorem run_mirrors_contents (ops : List Op) :
    Mirrors (run ops) (contents ops)
      ∧ (∀ kind, ((run ops).byKind.under kind).all (· < (run ops).size) = true)
      ∧ (∀ contract name, ((run ops).byContractAndName.under (contract, name)).all
        (· < (run ops).size) = true)
      ∧ (∀ file, ((run ops).byFile.under file).all (· < (run ops).size) = true)
      ∧ ∀ record, ((run ops).insert record).2.id = (contents ops).length
        ∧ ((run ops).insert record).1.toList = (run ops).toList ++ [record]
        ∧ Mirrors ((run ops).insert record).1 (contents ops ++ [record]) := by
  have h := refines_run ops
  refine ⟨h.mirrors, h.all_lt_size h.byKind,
    fun contract name => h.all_lt_size h.byContractAndName (contract, name),
    h.all_lt_size h.byFile, fun record => ⟨h.size, ?_, (h.insert record).mirrors⟩⟩
  rw [(h.insert record).toList, h.toList]

end Registry

end ContractDocs
