/-
Identifiers with their file. The identifier of a record is the path of a
target (`Record.target`), so what it resolves to is decided by three things:
whether it is read back as that target, which records the query of the
target accepts, and how many of them a registry holds.

With the file in front, the query asks for at least what the scope key
holds (`Record.Qualified.ofRecord_eq`), so a registry without duplicates has
one answer (`Documenter.qualified_target_unique`).
-/
import ContractDocs.Docs.Documenter
import ContractDocs.Proofs.Docs.Target
import ContractDocs.Proofs.Registry.Duplicates

namespace ContractDocs

open Text Grouping

-- ====================================================== the identifier

namespace Record

/-- The target that asks for what the record has. -/
def target (record : Record) (file : Option String) : Target :=
  ⟨file, record.contract, record.name, record.paramTypes⟩

/-- An identifier is a path, with a sign in the place of a missing name. -/
theorem toList_targetId (record : Record) (file : Option String) :
    record.targetId.toList
      = Target.path ⟨file, record.contract, some (record.name.getD "<fallback>"),
        record.paramTypes⟩ := by
  unfold targetId qualifiedName Target.path
  cases record.contract <;> cases record.paramTypes <;>
    simp [Target.writtenTypes, String.toList_intercalate]

theorem path_target {record : Record} (hname : record.name ≠ none)
    (file : Option String) :
    (record.target file).path = record.targetId.toList := by
  obtain ⟨name, hname⟩ := Option.ne_none_iff_exists'.1 hname
  rw [toList_targetId record file, target, hname]
  rfl

/-- The query of its own target accepts a record. -/
theorem accepts_target (record : Record) (file : Option String)
    (hfile : ∀ f ∈ file, record.file = f) :
    ((record.target file).query record.kind).accepts record = true := by
  rw [Target.accepts_query_iff]
  exact ⟨rfl, rfl, hfile, fun c hc => hc, fun ts hts => hts⟩

end Record

-- =========================================================== resolution

namespace Documenter

variable {registry : Registry} {records : List Record}

/-- Where a record is accepted, one is found, and the only remark there can
be is that it is not the only one. -/
theorem resolve_of_accepted (h : Registry.Refines registry records)
    {kind : Kind} {target : String} {record : Record} (hmem : record ∈ records)
    (haccepts : ((Target.read kind target).query kind).accepts record = true)
    (page : Page) :
    ∃ found ∈ records,
      ((Target.read kind target).query kind).accepts found = true
      ∧ (resolve registry kind target page = (page, some found)
        ∨ ∃ message, resolve registry kind target page
          = (page.report (.warningAt found.file found.line message), some found)) := by
  unfold resolve
  rw [h.select]
  have hfilter : record ∈ records.filter
      ((Target.read kind target).query kind).accepts :=
    List.mem_filter.2 ⟨hmem, haccepts⟩
  match hfound : records.filter ((Target.read kind target).query kind).accepts with
  | [] =>
      rw [hfound] at hfilter
      cases hfilter
  | [found] =>
      have hin := List.mem_filter.1 (hfound ▸ List.mem_singleton_self found)
      exact ⟨found, hin.1, hin.2, .inl rfl⟩
  | first :: second :: others =>
      have hin := List.mem_filter.1 (hfound ▸ List.mem_cons_self ..)
      exact ⟨first, hin.1, hin.2, .inr ⟨_, rfl⟩⟩

end Documenter

-- =============================================== targets with their file

/-- What a record needs for its file and its identifier to name it. -/
structure Record.Qualified (record : Record) : Prop where
  named : record.name ≠ none
  callable : record.kind.isOverloadable = true →
    ∃ header, record.parts = .callable header
  scope : if record.kind.isContractLike then record.contract = none
    else record.contract ≠ none
  name : ∀ n ∈ record.name, IsPlain n
  contract : ∀ c ∈ record.contract, IsPlain c
  file : record.file ≠ "" ∧ trimmed record.file = record.file
  types : ∀ types ∈ record.paramTypes, ∀ t ∈ types, net t.toList = 0
    ∧ ':' ∉ t.toList ∧ splitTopLevel t = [t] ∧ Target.overloadType t.toList = t

namespace Record

variable {record : Record}

theorem paramTypes_of_isContractLike (h : record.kind.isContractLike = true) :
    record.paramTypes = none := by
  have hover : record.kind.isOverloadable = false := by
    revert h
    cases record.kind <;> decide
  simp [paramTypes, hover]

theorem Qualified.proper (h : record.Qualified) :
    (record.target (some record.file)).Proper record.kind := by
  refine ⟨?_, ?_, h.contract, h.name, h.types⟩
  · rintro _ ⟨rfl⟩
    exact h.file
  · have hscope := h.scope
    cases hkind : record.kind.isContractLike with
    | true =>
        rw [hkind, if_pos rfl] at hscope
        exact ⟨hscope, h.named, paramTypes_of_isContractLike hkind⟩
    | false =>
        rw [hkind] at hscope
        exact hscope

/-- The file and the identifier are read as the target of the record. -/
theorem Qualified.read_eq (h : record.Qualified) :
    Target.read record.kind (record.file ++ ":" ++ record.targetId)
      = record.target (some record.file) := by
  have hrender : (record.target (some record.file)).render
      = record.file ++ ":" ++ record.targetId := by
    rw [← String.toList_inj, Target.toList_render]
    show record.file.toList ++ ':' :: (record.target _).path = _
    rw [path_target h.named]
    simp
  rw [← hrender, h.proper.readable.read_render]

/-- A record with the file, kind, name, contract and types of another has its
scope key. -/
theorem Qualified.ofRecord_eq (h : record.Qualified) {other : Record}
    (haccepts : ((record.target (some record.file)).query record.kind).accepts other
      = true) : ScopeKey.ofRecord other = ScopeKey.ofRecord record := by
  rw [Target.accepts_query_iff] at haccepts
  obtain ⟨hkind, hname, hfile, hcontract, htypes⟩ := haccepts
  have hscope := h.scope
  unfold ScopeKey.ofRecord
  rw [hkind]
  cases hlike : record.kind.isContractLike with
  | true => simp only [if_true]; rw [hname]; rfl
  | false =>
      rw [hlike] at hscope
      obtain ⟨contract, hsome⟩ := Option.ne_none_iff_exists'.1 hscope
      have hparams : other.paramTypes = record.paramTypes := by
        cases hrecord : record.paramTypes with
        | some types => exact htypes types hrecord
        | none =>
            -- then the kind is not overloadable, for either record
            have hover : record.kind.isOverloadable = false := by
              by_contra hover
              rw [Bool.not_eq_false] at hover
              obtain ⟨header, hparts⟩ := h.callable hover
              simp [paramTypes, hover, hparts, Signature.paramTypes] at hrecord
            simp [paramTypes, hkind, hover]
      rw [hfile record.file rfl, hcontract contract hsome, hname, hparams, hsome]
      rfl

end Record

/-- Without duplicates a target with its file is unique. In a registry that
was filled from nothing without a report, the file and the identifier of a
record resolve to that record, and nothing is remarked. -/
theorem Documenter.qualified_target_unique (registry : Registry)
    (hfilled : registry.FilledOnce) (record : Record)
    (hmem : record ∈ registry.toList) (h : record.Qualified) (page : Page) :
    Documenter.resolve registry record.kind
        (record.file ++ ":" ++ record.targetId) page
      = (page, some record) := by
  unfold Documenter.resolve
  have haccepts := record.accepts_target (some record.file) (by rintro _ ⟨rfl⟩; rfl)
  rw [h.read_eq, hfilled.distinct.refines.select,
    hfilled.filter_eq_singleton hmem haccepts fun other hother => h.ofRecord_eq hother]

/-- Two overloads in a file with a colon in its path. -/
def overloads : Record × Record :=
  ({ kind := .function, file := "lib:a.sol", line := 1, contract := some "C"
     parts := .callable ⟨some "f", [], [], none⟩ },
    { kind := .function, file := "lib:a.sol", line := 2, contract := some "C"
      parts := .callable ⟨some "f", [⟨"mapping (address => uint)", some "storage", none⟩,
        ⟨"function(uint,bool)view", some "memory", some "g"⟩], [], none⟩ })

theorem overloads_resolved :
    overloads.2.targetId
        = "C.f(mapping (address => uint) storage,function(uint,bool)view)"
      ∧ Documenter.resolve
        ((Registry.empty.insert overloads.1).1.insert overloads.2).1 .function
        ("lib:a.sol:C.f(mapping (address => uint) storage,function(uint,bool)view)") {}
        = ({}, some overloads.2) := by
  have hfirst := Registry.remembers_empty.insert rfl overloads.1
  have hfilled : ((Registry.empty.insert overloads.1).1.insert overloads.2).1.FilledOnce :=
    .insert (.insert .empty (Registry.remembers_empty.duplicateOf_eq_none_iff.2 (by simp)))
      (hfirst.duplicateOf_eq_none_iff.2 (by decide +kernel))
  have hC : IsPlain "C" := by decide
  have hf : IsPlain "f" := by decide
  refine ⟨by decide +kernel, ?_⟩
  exact Documenter.qualified_target_unique _ hfilled overloads.2 (by decide +kernel)
    { named := by decide
      callable := fun _ => ⟨_, rfl⟩
      scope := by decide
      name := by rintro _ ⟨rfl⟩; exact hf
      contract := by rintro _ ⟨rfl⟩; exact hC
      file := by decide
      types := by
        rintro _ ⟨rfl⟩
        decide +kernel } {}

end ContractDocs
