/-
First declarations. The registry remembers for every scope key the position
of the first record that has it (`Remembers`), whatever was inserted after
it, and this is what a duplicate is reported against.

A registry that was filled without a report (`FilledOnce`) has no scope key
twice, so a search that asks for one finds one record at most
(`FilledOnce.filter_eq_singleton`).
-/
import ContractDocs.Proofs.Registry.Refinement

namespace ContractDocs.Registry

variable {registry : Registry} {records : List Record}

-- =========================================================== first places

/-- The registry knows where every scope key came first. -/
def Remembers (registry : Registry) (records : List Record) : Prop :=
  ∀ key, registry.firsts[key]? = records.findIdx? (ScopeKey.ofRecord · == key)

theorem remembers_empty : Remembers empty [] := by
  intro key
  exact Std.HashMap.getElem?_empty

theorem firsts_insert (registry : Registry) (record : Record) :
    (registry.insert record).1.firsts
      = if registry.firsts[ScopeKey.ofRecord record]?.isSome then registry.firsts
        else registry.firsts.insert (ScopeKey.ofRecord record) registry.size :=
  rfl

/-- A repeated key keeps the place it has, and a new one gets the next. -/
theorem Remembers.insert (h : Remembers registry records)
    (hsize : registry.size = records.length) (record : Record) :
    Remembers (registry.insert record).1 (records ++ [record]) := by
  intro key
  rw [firsts_insert, List.findIdx?_append, ← h key, List.findIdx?_singleton]
  cases hfirst : registry.firsts[ScopeKey.ofRecord record]? with
  | some first =>
      rw [if_pos Option.isSome_some]
      by_cases hkey : ScopeKey.ofRecord record = key
      · rw [← hkey, hfirst]
        rfl
      · simp [hkey]
  | none =>
      rw [if_neg (by simp), Std.HashMap.getElem?_insert]
      by_cases hkey : ScopeKey.ofRecord record = key
      · rw [← hkey, hfirst]
        simp [hsize]
      · simp [hkey]

/-- What is not reported has a scope key of its own. -/
theorem Remembers.duplicateOf_eq_none_iff (h : Remembers registry records)
    {record : Record} :
    (registry.insert record).2.duplicateOf = none
      ↔ ∀ r ∈ records, ScopeKey.ofRecord r ≠ ScopeKey.ofRecord record := by
  show registry.firsts[ScopeKey.ofRecord record]? = none ↔ _
  rw [h, List.findIdx?_eq_none_iff]
  simp

-- ===================================================== without duplicates

/-- A registry that was filled from nothing, without a report. -/
inductive FilledOnce : Registry → Prop where
  | empty : FilledOnce empty
  | insert {registry : Registry} {record : Record} : FilledOnce registry →
      (registry.insert record).2.duplicateOf = none →
      FilledOnce (registry.insert record).1

/-- What filling keeps: the indexes, the first places, and that no scope key
comes twice. -/
structure Distinct (registry : Registry) : Prop where
  refines : Refines registry registry.toList
  remembers : Remembers registry registry.toList
  distinct : registry.toList.Pairwise fun a b =>
    ScopeKey.ofRecord a ≠ ScopeKey.ofRecord b

theorem Distinct.insert (h : Distinct registry) {record : Record}
    (hnone : (registry.insert record).2.duplicateOf = none) :
    Distinct (registry.insert record).1 := by
  have hrefines := h.refines.insert record
  have hremembers := h.remembers.insert h.refines.size record
  rw [h.remembers.duplicateOf_eq_none_iff] at hnone
  have hlist := hrefines.toList
  rw [← hlist] at hrefines hremembers
  refine ⟨hrefines, hremembers, ?_⟩
  rw [hlist, List.pairwise_append]
  refine ⟨h.distinct, List.pairwise_singleton _ _, fun a ha b hb => ?_⟩
  rw [List.mem_singleton.1 hb]
  exact hnone a ha

theorem FilledOnce.distinct (h : FilledOnce registry) : Distinct registry := by
  induction h with
  | empty => exact ⟨refines_empty, remembers_empty, .nil⟩
  | insert _ hnone ih => exact ih.insert hnone

/-- In a registry without duplicates a scope key names one record. -/
theorem FilledOnce.filter_eq_singleton (h : FilledOnce registry)
    {record : Record} (hmem : record ∈ registry.toList) {p : Record → Bool}
    (hp : p record = true)
    (hkey : ∀ r, p r = true → ScopeKey.ofRecord r = ScopeKey.ofRecord record) :
    registry.toList.filter p = [record] := by
  have hdistinct := h.distinct.distinct
  generalize registry.toList = records at hmem hdistinct
  obtain ⟨before, after, rfl⟩ := List.append_of_mem hmem
  rw [List.pairwise_append, List.pairwise_cons] at hdistinct
  obtain ⟨-, ⟨hafter, -⟩, hbefore⟩ := hdistinct
  have hout : ∀ r, ScopeKey.ofRecord r ≠ ScopeKey.ofRecord record → ¬ p r = true :=
    fun r hne hr => hne (hkey r hr)
  rw [List.filter_append, List.filter_cons_of_pos hp,
    List.filter_eq_nil_iff.2 fun r hr => hout r (hbefore r hr record (by simp)),
    List.filter_eq_nil_iff.2 fun r hr => hout r (hafter r hr).symm]
  rfl

end ContractDocs.Registry
