/-
Identifiers alone. In an accepted file an identifier resolves back to its
record exactly when the record has a name and its parameter types read back
(`Documenter.targetId_resolves_iff`).

The fallback function has no name. Its identifier says `<fallback>` in the
place of one, and a target reads that as a name; the target that does name
it has nothing there. Of the types, a colon is enough to lose the record:
the last colon of an identifier ends a file, and what stands behind it
closes a parenthesis that it does not open (`Target.readPath_concat_paren`).
-/
import ContractDocs.Proofs.Docs.Resolution
import ContractDocs.Proofs.Source.Outputs

namespace ContractDocs

open Text Grouping

-- ====================================================== colons in types

namespace Target

theorem part?_concat {c : Char} (hc : isBlank c = false) (x : List Char) :
    part? (x ++ [c]) = some (String.ofList (trimStart x ++ [c])) := by
  simp [part?, trim_concat hc]

/-- A path cut from inside a type list ends in a parenthesis, which goes to
the contract or to the name, or closes a list of other types. -/
theorem readPath_concat_paren {kind : Kind} (hkind : kind.isContractLike = false)
    {rest : List Char} (hcolon : ':' ∉ rest) {file : Option String}
    {target : Target} (htarget : readPath kind file (rest ++ [')']) = target) :
    (∃ c ∈ target.contract, ')' ∈ c.toList) ∨ (∃ n ∈ target.name, ')' ∈ n.toList)
      ∨ ∃ types ∈ target.paramTypes, ∀ t ∈ types, ':' ∉ t.toList := by
  have hparen : isBlank ')' = false := by decide
  rw [readPath_eq hkind] at htarget
  cases hpoint : cutFirst '.' (rest ++ [')']) with
  | none =>
      simp only [hpoint, part?_concat hparen] at htarget
      subst htarget
      exact .inl ⟨_, rfl, by simp⟩
  | some found =>
      obtain ⟨contract, member⟩ := found
      obtain ⟨hsplit, -⟩ := cutFirst_eq_some_iff.1 hpoint
      -- a point is not the last character, so the parenthesis is in the member
      obtain ⟨tail, rfl⟩ : ∃ tail, member = tail ++ [')'] := by
        rcases List.eq_nil_or_concat member with rfl | ⟨tail, d, rfl⟩
        · cases (List.append_inj' hsplit rfl).2
        · have hlast : rest ++ [')'] = (contract ++ '.' :: tail) ++ [d] := by
            simpa using hsplit
          cases (List.append_inj' hlast rfl).2
          exact ⟨tail, List.concat_eq_append⟩
      simp only [hpoint, readMember] at htarget
      cases hopen : cutFirst '(' (tail ++ [')']) with
      | none =>
          simp only [hopen, part?_concat hparen] at htarget
          subst htarget
          exact .inr (.inl ⟨_, rfl, by simp⟩)
      | some found =>
          obtain ⟨name, list⟩ := found
          simp only [hopen] at htarget
          subst htarget
          refine .inr (.inr ⟨_, rfl, fun t ht hc => hcolon ?_⟩)
          have hlist := mem_of_mem_readTypes ht hc (by decide)
          have hmember : ':' ∈ tail ++ [')'] := by
            rw [(cutFirst_eq_some_iff.1 hopen).1]
            simp [hlist]
          have hrest : ':' ∈ rest ++ [')'] := by
            rw [hsplit]
            exact List.mem_append_right _ (List.mem_cons_of_mem _ hmember)
          simpa using hrest

/-- A colon in the path of a member is one of its types. -/
theorem colon_mem_path {contract name : String} (hcontract : IsPlain contract)
    (hname : IsPlain name) {types : Option (List String)} {file : Option String}
    (h : ':' ∈ path ⟨file, some contract, some name, types⟩) :
    ∃ ts lead rest, types = some ts ∧ (∃ t ∈ ts, ':' ∈ t.toList)
      ∧ path ⟨file, some contract, some name, types⟩ = lead ++ ':' :: (rest ++ [')'])
      ∧ ':' ∉ rest := by
  have hplain : ∀ {s : String}, IsPlain s → ':' ∉ s.toList := fun hs hc =>
    (hs.plain ':' hc).2.2.2 rfl
  unfold path at h ⊢
  cases types with
  | none => simp [hplain hcontract, hplain hname] at h
  | some ts =>
      have hmem : ':' ∈ writtenTypes ts := by
        simpa [hplain hcontract, hplain hname] using h
      cases hcut : cutLast ':' (writtenTypes ts) with
      | none => exact absurd hmem (cutLast_eq_none_iff.1 hcut)
      | some found =>
          obtain ⟨lead, rest⟩ := found
          obtain ⟨hsplit, hrest⟩ := cutLast_eq_some_iff.1 hcut
          refine ⟨ts, contract.toList ++ '.' :: (name.toList ++ '(' :: lead), rest,
            rfl, ?_, by simp [hsplit], hrest⟩
          by_contra hnone
          exact not_mem_writtenTypes (by decide)
            (fun t ht hc => hnone ⟨t, ht, hc⟩) hmem

end Target

/-- The identifier of the record says what the record has: a name, and types
that read back. -/
structure Record.Identified (record : Record) : Prop where
  named : record.name ≠ none
  types : ∀ types ∈ record.paramTypes,
    Target.ReadsBack types ∧ ∀ t ∈ types, ':' ∉ t.toList

namespace Record

variable {record : Record}

/-- Members have a contract around them, and all others a name. -/
structure Scoped (record : Record) : Prop where
  contract : record.kind.isContractLike = true ↔ record.contract = none
  name : record.kind.isContractLike = true → record.name ≠ none

theorem Identified.accepts (h : record.Identified) (hscoped : record.Scoped)
    (hcontract : ∀ c ∈ record.contract, IsPlain c)
    (hname : ∀ n ∈ record.name, IsPlain n) :
    ((Target.read record.kind record.targetId).query record.kind).accepts record
      = true := by
  have hreadable : (record.target none).Readable record.kind := by
    refine ⟨fun f hf => (Option.not_mem_none f hf).elim, ?_, hcontract, hname, h.types⟩
    split
    · next hkind =>
        exact ⟨hscoped.contract.1 hkind, h.named, paramTypes_of_isContractLike hkind⟩
    · next hkind => exact fun hnone => hkind (hscoped.contract.2 hnone)
  have hrender : (record.target none).render = record.targetId := by
    rw [← String.toList_inj, Target.toList_render]
    exact path_target h.named none
  rw [← hrender, hreadable.read_render]
  exact record.accepts_target none fun f hf => (Option.not_mem_none f hf).elim

theorem identified_of_accepts (hscoped : record.Scoped)
    (hcontract : ∀ c ∈ record.contract, IsPlain c ∧ ')' ∉ c.toList)
    (hname : ∀ n ∈ record.name, IsPlain n ∧ ')' ∉ n.toList)
    (haccepts : ((Target.read record.kind record.targetId).query
      record.kind).accepts record = true) : record.Identified := by
  cases hkind : record.kind.isContractLike with
  | true =>
      refine ⟨hscoped.name hkind, fun types htypes => ?_⟩
      rw [paramTypes_of_isContractLike hkind] at htypes
      cases htypes
  | false =>
      have hmember : record.contract ≠ none := fun hnone => by
        rw [hscoped.contract.2 hnone] at hkind
        cases hkind
      obtain ⟨contract, hsome⟩ := Option.ne_none_iff_exists'.1 hmember
      have hplain : ∀ n ∈ some (record.name.getD "<fallback>"), IsPlain n := by
        rintro _ ⟨rfl⟩
        cases hn : record.name with
        | none => exact (by decide : IsPlain "<fallback>")
        | some n => exact (hname n hn).1
      rw [Target.accepts_query_iff] at haccepts
      by_cases hcolon : ':' ∈ record.targetId.toList
      · -- the last colon is in a type, and what stands behind it is no such path
        rw [toList_targetId record none, hsome] at hcolon
        obtain ⟨ts, lead, rest, hts, ⟨t, ht, hct⟩, hpath, hrest⟩ :=
          Target.colon_mem_path (hcontract contract hsome).1 (hplain _ rfl) hcolon
        have hnot : ':' ∉ rest ++ [')'] := by simpa using hrest
        rw [Target.read_eq, toList_targetId record none, hsome, hpath,
          cutLast_append hnot] at haccepts
        obtain ⟨-, hn, -, hc, htypes⟩ := haccepts
        rcases Target.readPath_concat_paren hkind hrest rfl with
          ⟨c, hmem, hparen⟩ | ⟨n, hmem, hparen⟩ | ⟨types, hmem, hfree⟩
        · exact absurd hparen (hcontract c (hsome.trans (hc c hmem))).2
        · exact absurd hparen (hname n (hn.trans hmem)).2
        · have heq := htypes types hmem
          rw [hts, Option.some.injEq] at heq
          exact absurd hct (hfree t (heq ▸ ht))
      · rw [Target.read_eq, cutLast_eq_none_iff.2 hcolon] at haccepts
        simp only [toList_targetId record none, hsome,
          Target.readPath_path hkind (hcontract contract hsome).1 hplain] at haccepts
        obtain ⟨-, hn, -, -, htypes⟩ := haccepts
        refine ⟨by rw [hn]; exact Option.some_ne_none _, fun types hmem => ⟨?_, ?_⟩⟩
        · have heq := htypes _ (Option.mem_map_of_mem _ hmem)
          rw [hmem, Option.some.injEq] at heq
          exact Target.readTypes_written_iff.1 heq.symm
        · intro t ht hc
          refine hcolon ?_
          have hwritten : ':' ∈ Target.writtenTypes types :=
            Target.mem_intercalate_of_mem (List.mem_map_of_mem ht) hc
          have hmem : record.paramTypes = some types := hmem
          rw [toList_targetId record none, hmem, Target.path]
          simp [hwritten]

end Record

theorem Source.scoped_of_mem_records {source : Source} {defs : Definitions}
    (h : source.definitions = .ok defs) {record : Record}
    (hmem : record ∈ defs.records) : record.Scoped := by
  obtain ⟨spot, -, hyields⟩ := source.exists_yields_of_mem_records h hmem
  refine ⟨hyields.isContractLike_iff, fun hkind => ?_⟩
  have hnamed : ∀ {kind : Kind} {r : Record}, kind.isContractLike = true →
      source.record? spot.before spot.node kind = some r → r.parts.name ≠ none := by
    intro kind r hlike hrecord
    obtain ⟨name, hname⟩ :=
      source.exists_name_of_isContractLike hlike (source.parts_of_record? hrecord).1
    rw [hname]
    exact Option.some_ne_none name
  cases hyields with
  | scope _ hlike hrecord _ =>
      have hne := hnamed hlike hrecord
      exact hne
  | member _ hlike hrecord _ =>
      obtain ⟨-, rfl, -⟩ := source.parts_of_record? hrecord
      rw [show Kind.isContractLike _ = false from hlike] at hkind
      cases hkind

/-- An identifier resolves back to its record exactly when the record has a
name and its types read back, in any accepted file whose names hold no sign
of a target; and then it is found in every registry that holds the record. -/
theorem Documenter.targetId_resolves_iff (source : Source) (defs : Definitions)
    (h : source.definitions = .ok defs) (record : Record)
    (hmem : record ∈ defs.records)
    (hcontract : ∀ c ∈ record.contract, IsPlain c ∧ ')' ∉ c.toList)
    (hname : ∀ n ∈ record.name, IsPlain n ∧ ')' ∉ n.toList) :
    (((Target.read record.kind record.targetId).query record.kind).accepts record
        = true ↔ record.Identified)
      ∧ (record.Identified → ∀ ops, record ∈ Registry.contents ops → ∀ page,
        ∃ found ∈ Registry.contents ops,
          resolve (Registry.run ops) record.kind record.targetId page
              = (page, some found)
            ∨ ∃ message, resolve (Registry.run ops) record.kind record.targetId page
              = (page.report (.warningAt found.file found.line message),
                some found)) := by
  have hscoped := Source.scoped_of_mem_records h hmem
  have haccepts : record.Identified →
      ((Target.read record.kind record.targetId).query record.kind).accepts record
        = true := fun hid =>
    hid.accepts hscoped (fun c hc => (hcontract c hc).1) fun n hn => (hname n hn).1
  refine ⟨⟨record.identified_of_accepts hscoped hcontract hname, haccepts⟩, ?_⟩
  intro hid ops hin page
  obtain ⟨found, hfound, -, hresolve⟩ :=
    resolve_of_accepted (Registry.refines_run ops) hin (haccepts hid) page
  exact ⟨found, hfound, hresolve⟩

/-- A function with a parameter, and the fallback function. -/
def fallbackFile : Source where
  path := "C.sol"
  bytes := "contract C\x7bfunction f(uint a)\x7b\x7dfunction()\x7b\x7d\x7d".toUTF8
  recovered := false
  root := ⟨"source_file", true, none, 0, 44, 0,
    [⟨"contract_declaration", true, none, 0, 44, 0,
      [⟨"identifier", true, some "name", 9, 10, 0, []⟩,
        ⟨"contract_body", true, some "body", 10, 44, 0,
          [⟨"function_definition", true, none, 11, 31, 0,
              [⟨"identifier", true, some "name", 20, 21, 0, []⟩,
                ⟨"parameter", true, none, 22, 28, 0,
                  [⟨"type_name", true, some "type", 22, 26, 0, []⟩,
                    ⟨"identifier", true, some "name", 27, 28, 0, []⟩]⟩]⟩,
            ⟨"fallback_receive_definition", true, none, 31, 43, 0, []⟩]⟩]⟩]⟩

/-- The two functions as the file records them. -/
def recordedFunction : Record where
  kind := .function
  file := "C.sol"
  parts := .callable ⟨some "f", [⟨"uint", none, some "a"⟩], [], none⟩
  line := 1
  contract := some "C"

@[inherit_doc recordedFunction]
def recordedFallback : Record where
  kind := .function
  file := "C.sol"
  parts := .callable ⟨none, [], [], none⟩
  line := 1
  contract := some "C"

/-- The function is found under its identifier, the fallback is not. -/
theorem fallbackFile_identifiers :
    (fallbackFile.definitions.toOption.map fun defs => defs.records.tail)
        = some [recordedFunction, recordedFallback]
      ∧ recordedFunction.targetId = "C.f(uint)"
      ∧ recordedFallback.targetId = "C.<fallback>()"
      ∧ ((Target.read .function "C.f(uint)").query .function).accepts recordedFunction
        = true
      ∧ ((Target.read .function "C.<fallback>()").query .function).accepts
        recordedFallback = false
      ∧ ∃ found, (Documenter.resolve
        (Registry.run [.insert recordedFunction, .insert recordedFallback])
        .function "C.f(uint)" {}).2 = some found := by
  have h : fallbackFile.definitions = .ok
      { records :=
          [{ kind := .contract, file := "C.sol", parts := .typeLike ⟨"C", []⟩, line := 1 },
            recordedFunction, recordedFallback] } := by
    decide +kernel
  have hC : IsPlain "C" ∧ ')' ∉ "C".toList := ⟨by decide, by decide⟩
  have hf : IsPlain "f" ∧ ')' ∉ "f".toList := ⟨by decide, by decide⟩
  obtain ⟨hfunction, hfound⟩ := Documenter.targetId_resolves_iff fallbackFile _ h
    recordedFunction (by simp) (by rintro _ ⟨rfl⟩; exact hC) (by rintro _ ⟨rfl⟩; exact hf)
  obtain ⟨hfallback, -⟩ := Documenter.targetId_resolves_iff fallbackFile _ h
    recordedFallback (by simp) (by rintro _ ⟨rfl⟩; exact hC) (by rintro _ ⟨⟩)
  have hid : recordedFunction.Identified := by
    refine ⟨by decide, ?_⟩
    rintro _ ⟨rfl⟩
    exact ⟨Target.readTypes_written_iff.1 (by decide +kernel), by decide⟩
  refine ⟨by rw [h]; rfl, rfl, rfl, hfunction.2 hid,
    Bool.eq_false_iff.2 fun haccepts => (hfallback.1 haccepts).named rfl, ?_⟩
  obtain ⟨found, -, hfound | ⟨message, hfound⟩⟩ :=
    hfound hid [.insert recordedFunction, .insert recordedFallback] (by decide +kernel) {}
  · exact ⟨found, congrArg Prod.snd hfound⟩
  · exact ⟨found, congrArg Prod.snd hfound⟩

end ContractDocs
