/-
The walk scopes every declaration and drops none silently. In a file that is
not refused every reached declaration has one output, a record or a warning
(`Yields`), and the definitions of the file are these outputs in pre-order
and nothing else.

That a member has one contract around it, and a contract-like declaration
none, needs the whole walk: it holds because no reached spot is a violation
(`scopesAround_eq_nil_or_singleton`).
-/
import ContractDocs.Proofs.Source.Nesting

namespace ContractDocs.Source

variable {source : Source}

/-- What the declaration at a spot comes to in an accepted file. -/
inductive Yields (source : Source) (spot : Spot) : Output → Prop where
  /-- A contract-like declaration that can be read, outside any other. -/
  | scope {kind : Kind} {record : Record} :
      spot.node.declares? = some kind → kind.isContractLike = true →
      source.record? spot.before spot.node kind = some record →
      source.scopesAround spot = [] →
      Yields source spot (.record { record with contract := none })
  /-- Any other declaration that can be read, in the one scope around it. -/
  | member {kind : Kind} {record : Record} {outer : String} :
      spot.node.declares? = some kind → kind.isContractLike = false →
      source.record? spot.before spot.node kind = some record →
      source.scopesAround spot = [outer] →
      Yields source spot (.record { record with contract := some outer })
  /-- One that can be read, but has no scope around it. -/
  | outside {kind : Kind} {record : Record} :
      spot.node.declares? = some kind → kind.isContractLike = false →
      source.record? spot.before spot.node kind = some record →
      source.scopesAround spot = [] →
      Yields source spot (.warning (.warningAt source.path spot.node.line
        (kind.label ++ " `" ++ record.signature
          ++ "` is declared outside a contract and is not documented")))
  /-- One whose header cannot be read. -/
  | unreadable {kind : Kind} :
      spot.node.declares? = some kind →
      source.record? spot.before spot.node kind = none →
      Yields source spot (.warning (.warningAt source.path spot.node.line
        ("could not read " ++ kind.label ++ " declaration")))

/-- The output of a spot is what its declaration comes to, where nothing is a
violation and at most one scope is around it. -/
theorem yields_of_output? {spot : Spot} {output : Output}
    (hv : source.violation? spot = none)
    (hone : source.scopesAround spot = []
      ∨ ∃ outer, source.scopesAround spot = [outer])
    (h : source.output? spot = some output) : source.Yields spot output := by
  obtain ⟨kind, hdeclares, rfl⟩ := Option.map_eq_some_iff.1 h
  cases hrecord : source.record? spot.before spot.node kind with
  | none => exact .unreadable hdeclares hrecord
  | some record =>
      obtain ⟨hparts, -, -, hcontract⟩ := parts_of_record? hrecord
      cases hlike : kind.isContractLike with
      | true =>
          obtain ⟨name, hname⟩ := exists_name_of_isContractLike hlike hparts
          have hopens : source.scopeName? spot.node = some name :=
            (scopeName?_eq_some_iff spot.before).2
              ⟨kind, record, hdeclares, hlike, hrecord, hname⟩
          have hnil := scopesAround_eq_nil hv hopens
          have hyields := Yields.scope hdeclares hlike hrecord hnil
          rw [← hcontract] at hyields
          exact hyields
      | false =>
          rcases hone with hnil | ⟨outer, hscopes⟩
          · have hyields := Yields.outside hdeclares hlike hrecord hnil
            simp only [hnil]
            exact hyields
          · have hyields := Yields.member hdeclares hlike hrecord hscopes
            simp only [hscopes]
            exact hyields

/-- A spot has an output exactly when it is a declaration. -/
theorem isSome_output? (source : Source) (spot : Spot) :
    (source.output? spot).isSome = spot.node.declares?.isSome :=
  Option.isSome_map

/-- The declarations among some spots, one by one with their outputs. -/
theorem forall₂_outputs {spots : List Spot}
    (h : ∀ spot ∈ spots, ∀ output, source.output? spot = some output →
      source.Yields spot output) :
    List.Forall₂ source.Yields (spots.filter (·.node.declares?.isSome))
      (spots.filterMap source.output?) := by
  induction spots with
  | nil => exact .nil
  | cons spot spots ih =>
      have hrest := ih fun s hs => h s (List.mem_cons_of_mem _ hs)
      have hdeclares := isSome_output? source spot
      cases houtput : source.output? spot with
      | none =>
          rw [houtput] at hdeclares
          rw [List.filterMap_cons_none houtput,
            List.filter_cons_of_neg (by rw [← hdeclares]; exact Bool.false_ne_true)]
          exact hrest
      | some output =>
          rw [houtput] at hdeclares
          rw [List.filterMap_cons_some houtput,
            List.filter_cons_of_pos (by rw [← hdeclares]; rfl)]
          exact .cons (h spot (List.mem_cons_self ..) output houtput) hrest

/-- A record outside any contract is that of a contract-like declaration. -/
theorem Yields.isContractLike_iff {spot : Spot} {record : Record}
    (h : source.Yields spot (.record record)) :
    record.kind.isContractLike = true ↔ record.contract = none := by
  cases h with
  | scope hdeclares hlike hrecord hscopes =>
      obtain ⟨-, rfl, -, -⟩ := parts_of_record? hrecord
      exact ⟨fun _ => rfl, fun _ => hlike⟩
  | member hdeclares hlike hrecord hscopes =>
      obtain ⟨-, rfl, -, -⟩ := parts_of_record? hrecord
      constructor
      · intro htrue
        rw [show Kind.isContractLike _ = false from hlike] at htrue
        cases htrue
      · intro hnone
        cases hnone

/-- A record of an accepted file is what one reached declaration comes
to. -/
theorem exists_yields_of_mem_records {defs : Definitions} {record : Record}
    (h : source.definitions = .ok defs) (hrecord : record ∈ defs.records) :
    ∃ spot, source.Reached spot ∧ source.Yields spot (.record record) := by
  obtain ⟨hnone, rfl⟩ := definitions_eq_ok_iff.1 h
  obtain ⟨output, houtput, hsome⟩ := List.mem_filterMap.1 hrecord
  obtain ⟨spot, hspot, hspotOutput⟩ := List.mem_filterMap.1 houtput
  have hyields : source.Yields spot output := by
    refine yields_of_output? (hnone spot hspot) ?_ hspotOutput
    exact scopesAround_eq_nil_or_singleton (mem_spots_iff.1 hspot)
      fun other hother _ => hnone other (mem_spots_iff.2 hother)
  cases output with
  | warning d => cases hsome
  | record r =>
      cases hsome
      exact ⟨spot, mem_spots_iff.1 hspot, hyields⟩

/-- The walk scopes every declaration and drops none silently. In an accepted
file the reached declarations, in pre-order, correspond one to one to outputs;
the records and the diagnostics of the file are these outputs in order; and
exactly the contract-like records have no contract around them. -/
theorem definitions_list_outputs (source : Source) (defs : Definitions)
    (h : source.definitions = .ok defs) :
    ∃ spots outputs,
      (∀ spot, spot ∈ spots
        ↔ source.Reached spot ∧ spot.node.declares?.isSome = true)
      ∧ spots.Pairwise (fun a b => a.path < b.path)
      ∧ List.Forall₂ source.Yields spots outputs
      ∧ defs.records = outputs.filterMap Output.record?
      ∧ defs.diagnostics = outputs.filterMap Output.warning?
      ∧ ∀ record ∈ defs.records,
        record.kind.isContractLike = true ↔ record.contract = none := by
  obtain ⟨hnone, rfl⟩ := definitions_eq_ok_iff.1 h
  have hyields : ∀ spot ∈ source.spots, ∀ output,
      source.output? spot = some output → source.Yields spot output := by
    intro spot hspot output houtput
    refine yields_of_output? (hnone spot hspot) ?_ houtput
    exact scopesAround_eq_nil_or_singleton (mem_spots_iff.1 hspot)
      fun other hother _ => hnone other (mem_spots_iff.2 hother)
  refine ⟨source.spots.filter (·.node.declares?.isSome),
    source.spots.filterMap source.output?, ?_, (sorted_spots source).filter _,
    forall₂_outputs hyields, rfl, rfl, ?_⟩
  · intro spot
    rw [List.mem_filter, mem_spots_iff]
  · intro record hrecord
    obtain ⟨output, houtput, hsome⟩ := List.mem_filterMap.1 hrecord
    obtain ⟨spot, hspot, hspotOutput⟩ := List.mem_filterMap.1 houtput
    cases output with
    | record r =>
        cases hsome
        exact (hyields spot hspot _ hspotOutput).isContractLike_iff
    | warning d => cases hsome

/-- A member inside its contract, an enum outside any, and a library whose
name was lost. -/
def scopedFile : Source where
  path := "a.sol"
  bytes := "contract A\x7benum E\x7b\x7d\x7d\nenum F\x7b\x7d".toUTF8
  recovered := true
  root := ⟨"source_file", true, none, 0, 29, 0,
    [⟨"contract_declaration", true, none, 0, 20, 0,
      [⟨"identifier", true, some "name", 9, 10, 0, []⟩,
        ⟨"contract_body", true, some "body", 10, 20, 0,
          [⟨"enum_declaration", true, none, 11, 19, 0,
            [⟨"identifier", true, some "name", 16, 17, 0, []⟩]⟩]⟩]⟩,
      ⟨"enum_declaration", true, none, 21, 29, 1,
        [⟨"identifier", true, some "name", 26, 27, 1, []⟩]⟩,
      ⟨"library_declaration", true, none, 29, 29, 2, []⟩]⟩

theorem scopedFile_outputs :
    ∃ defs spots outputs, scopedFile.definitions = .ok defs
      ∧ defs.records.map (fun r => (r.name, r.contract))
        = [(some "A", none), (some "E", some "A")]
      ∧ defs.diagnostics.map Diagnostic.place
        = [some ⟨"a.sol", 2⟩, some ⟨"a.sol", 3⟩]
      ∧ List.Forall₂ scopedFile.Yields spots outputs
      ∧ defs.records = outputs.filterMap Output.record?
      ∧ defs.diagnostics = outputs.filterMap Output.warning? := by
  have h : scopedFile.definitions = .ok
      { records :=
          [{ kind := .contract, file := "a.sol", parts := .typeLike ⟨"A", []⟩, line := 1 },
            { kind := .enum, file := "a.sol", parts := .typeLike ⟨"E", []⟩, line := 1,
              contract := some "A" }]
        diagnostics :=
          [.warningAt "a.sol" 2
              "enum `F` is declared outside a contract and is not documented",
            .warningAt "a.sol" 3 "could not read library declaration"] } := by
    decide +kernel
  obtain ⟨spots, outputs, -, -, hyields, hrecords, hdiagnostics, -⟩ :=
    definitions_list_outputs scopedFile _ h
  exact ⟨_, spots, outputs, h, rfl, rfl, hyields, hrecords, hdiagnostics⟩

end ContractDocs.Source
