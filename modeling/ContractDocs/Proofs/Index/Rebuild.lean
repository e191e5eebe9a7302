/-
Rebuilding forgets. Whatever a build has been through, earlier builds over
other trees, failures, diagnostics raised in between, a rebuild is a first
build over the files as they are now.

A rebuild looks at the documentation root and at the configuration, which no
event changes (`run_root`), and clears everything else before it begins
(`rebuild_eq`). A rebuild that fails clears the registry
again, so no record is left of the files indexed before the failure.
-/
import ContractDocs.Build
import ContractDocs.Proofs.Index.Repeats

namespace ContractDocs

namespace Registry

/-- Clearing leaves nothing behind, in the indexes either. -/
theorem clear_eq_empty (registry : Registry) : registry.clear = .empty := rfl

end Registry

namespace Build

/-- What can happen to a build. -/
inductive Event where
  /-- The sources are indexed anew, from the files as they are then. -/
  | rebuild (files : Files)
  /-- Diagnostics are raised outside indexing. -/
  | diagnose (ds : List Diagnostic)

/-- A build after one event. -/
def step (build : Build) : Event → Build
  | .rebuild files => (build.rebuild files).1
  | .diagnose ds => build.addDiagnostics ds

/-- A build after some events. -/
def run (build : Build) (events : List Event) : Build :=
  events.foldl step build

/-- What a rebuild comes to depends on the root and the configuration alone. -/
theorem rebuild_eq (build : Build) (files : Files) :
    build.rebuild files
      = match Index.extend files build.lookupRoot build.config {} with
        | (index, none) => (⟨build.docsRoot, build.config, index⟩, none)
        | (index, some failure) =>
          (⟨build.docsRoot, build.config, ⟨.empty, index.diagnostics⟩⟩, some failure) := by
  unfold rebuild
  rw [Registry.clear_eq_empty]
  rfl

theorem init_eq (build : Build) (files : Files) :
    init files build.docsRoot build.config
      = match Index.extend files build.lookupRoot build.config {} with
        | (index, none) => .ok ⟨build.docsRoot, build.config, index⟩
        | (_, some failure) => .error failure := by
  rw [init, rebuild_eq]
  rw [show Build.lookupRoot ⟨build.docsRoot, build.config, {}⟩ = build.lookupRoot from rfl]
  rcases Index.extend files build.lookupRoot build.config {} with ⟨index, failure⟩
  cases failure with
  | none => rfl
  | some failure => rfl

theorem rebuild_root (build : Build) (files : Files) :
    (build.rebuild files).1.docsRoot = build.docsRoot
      ∧ (build.rebuild files).1.config = build.config := by
  rw [rebuild_eq]
  split
  · exact ⟨rfl, rfl⟩
  · exact ⟨rfl, rfl⟩

/-- No event touches the root or the configuration. -/
theorem step_root (build : Build) (event : Event) :
    (build.step event).docsRoot = build.docsRoot
      ∧ (build.step event).config = build.config := by
  cases event with
  | rebuild files => exact build.rebuild_root files
  | diagnose ds => exact ⟨rfl, rfl⟩

theorem run_root (events : List Event) :
    ∀ build : Build, (build.run events).docsRoot = build.docsRoot
      ∧ (build.run events).config = build.config := by
  induction events with
  | nil => intro build; exact ⟨rfl, rfl⟩
  | cons event events ih =>
      intro build
      obtain ⟨hroot, hconfig⟩ := ih (build.step event)
      obtain ⟨hroot', hconfig'⟩ := build.step_root event
      exact ⟨hroot.trans hroot', hconfig.trans hconfig'⟩

/-- Rebuilding forgets. After any events, a rebuild that succeeds is the first
build over the files as they are; one that fails does so with the failure of
that first build, leaves no record behind, and keeps only the diagnostics of
the attempt. -/
theorem rebuild_forgets_history (start : Build) (events : List Event) (files : Files) :
    match (start.run events).rebuild files with
    | (build, none) => init files start.docsRoot start.config = .ok build
    | (build, some failure) =>
      init files start.docsRoot start.config = .error failure
        ∧ build.index.registry = .empty
        ∧ build.index.registry.Mirrors []
        ∧ build.index.diagnostics
          = (Index.extend files start.lookupRoot start.config {}).1.diagnostics := by
  obtain ⟨hroot, hconfig⟩ := run_root events start
  have hlookup : (start.run events).lookupRoot = start.lookupRoot := by
    rw [lookupRoot, lookupRoot, hroot, hconfig]
  rw [rebuild_eq, init_eq, hlookup, hconfig, hroot]
  rcases Index.extend files start.lookupRoot start.config {} with ⟨index, failure⟩
  cases failure with
  | none => rfl
  | some failure => exact ⟨rfl, rfl, Registry.refines_empty.mirrors, rfl⟩

-- ============================================================ instances

section

open Index

/-- The library of `mixedTree`. -/
def library : Record :=
  { kind := .library, file := "b.sol", parts := .typeLike ⟨"L", []⟩, line := 1 }

theorem mixedTree_readLibrary :
    readFile mixedTree ⟨"b.sol", "./b.sol"⟩ = .ok ⟨⟨[library], []⟩, false⟩ := by
  have hlookup : ∃ bytes tree, mixedTree.lookup "./b.sol" = .ok (["b.sol"], .file bytes tree)
      ∧ (Source.mk "b.sol" bytes (tree.getD emptyTree).root false).definitions
        = .ok ⟨[library], []⟩
      ∧ (tree.getD emptyTree).recovered = false := by
    rw [show ("./b.sol" : RawText) = Path.child "." "b.sol" by decide]
    exact ⟨_, _, Files.lookup_child (Files.lookup_here rfl) (by decide) (by decide) rfl nofun
      (by decide), by decide +kernel, rfl⟩
  obtain ⟨bytes, tree, hlookup, hdefinitions, hrecovered⟩ := hlookup
  have hread : mixedTree.read "./b.sol" = .ok (bytes, tree) := by
    rw [Files.read, hlookup]
    rfl
  rw [readFile, hread]
  dsimp only
  rw [hrecovered, hdefinitions]

theorem lookupRoot_here {build : Build} (hroot : build.docsRoot = "")
    (hpath : build.config.lookupPath = ".") : build.lookupRoot = "." := by
  rw [lookupRoot, Config.lookupRoot, hroot, hpath, Path.join]
  decide +kernel

/-- A build of `mixedTree` that passes over its nested contract holds its
library. -/
theorem rebuild_mixedTree {build : Build} (hroot : build.docsRoot = "")
    (hconfig : build.config = { lookupPath := "." }) :
    (build.rebuild mixedTree).1.index.registry.toList = [library] := by
  have hlookup : build.lookupRoot = "." := lookupRoot_here hroot (by rw [hconfig])
  have hextend : Index.extend mixedTree "." build.config {}
      = ((({} : Index).report (.ofFileFailure "a.sol" (.nesting ⟨"a.sol", 2, "B", "A"⟩))).addFile
        "b.sol" ⟨⟨[library], []⟩, false⟩, none) := by
    rw [hconfig, extend_of_discover (mixedTree_discover _ rfl), buildOver,
      addFiles_cons_skip mixedTree_readFile rfl, addFiles_cons_ok mixedTree_readLibrary]
    rfl
  rw [rebuild_eq, hlookup, hextend]
  have hempty : Registry.Refines (({} : Index).report (.ofFileFailure "a.sol"
      (.nesting ⟨"a.sol", 2, "B", "A"⟩))).registry [] := Registry.refines_empty
  exact (refines_addFile hempty "b.sol" ⟨⟨[library], []⟩, false⟩).toList

/-- However often `mixedTree` is built, its library is there once. -/
example : ((Build.mk "" { lookupPath := "." } {}).run
      [.rebuild mixedTree, .rebuild mixedTree]).index.registry.toList = [library] := by
  obtain ⟨hroot, hconfig⟩ := run_root [.rebuild mixedTree] ⟨"", { lookupPath := "." }, {}⟩
  exact rebuild_mixedTree hroot hconfig

/-- A rebuild of `mixedTree` that does not pass over its nested contract fails,
and what the build held is gone. -/
example (held : Index) :
    let build : Build := ⟨"", { lookupPath := ".", onFileError := .abort }, held⟩
    (build.rebuild mixedTree).2 = some (.nesting ⟨"a.sol", 2, "B", "A"⟩)
      ∧ (build.rebuild mixedTree).1.index.registry = .empty := by
  have hlookup : Build.lookupRoot ⟨"", { lookupPath := ".", onFileError := .abort }, held⟩
      = "." := lookupRoot_here rfl rfl
  have hextend : Index.extend mixedTree "." { lookupPath := ".", onFileError := .abort } {}
      = ({}, some (.nesting ⟨"a.sol", 2, "B", "A"⟩)) := by
    rw [extend_of_discover (mixedTree_discover _ rfl), buildOver,
      addFiles_cons_stop mixedTree_readFile (by simp)]
    rfl
  dsimp only
  rw [rebuild_eq, hlookup, hextend]
  exact ⟨rfl, rfl⟩

end

end Build

end ContractDocs
