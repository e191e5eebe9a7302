/-
A documentation build: a documentation root, a configuration, and the index
made from them. Rebuilding starts from nothing; a failed rebuild leaves no
records and keeps only the diagnostics of the attempt.
-/
import ContractDocs.Docs.Documenter
import ContractDocs.Index.Basic
import ContractDocs.Report.Index

namespace ContractDocs

/-- The state of a documentation build. -/
structure Build where
  docsRoot : String
  config : Config
  index : Index := {}

namespace Build

/-- The directory of the sources. -/
def lookupRoot (build : Build) : String :=
  build.config.lookupRoot build.docsRoot

/-- Indexes the sources anew: what the build held before is dropped first. -/
def rebuild (build : Build) (files : Files) : Build × Option Failure :=
  let cleared : Index := ⟨build.index.registry.clear, []⟩
  match Index.extend files build.lookupRoot build.config cleared with
  | (index, none) => ({ build with index }, none)
  | (index, some failure) =>
    ({ build with index := { index with registry := index.registry.clear } }, some failure)

/-- A first build. -/
def init (files : Files) (docsRoot : String) (config : Config) : Except Failure Build :=
  match Build.rebuild ⟨docsRoot, config, {}⟩ files with
  | (build, none) => .ok build
  | (_, some failure) => .error failure

/-- Adds diagnostics to those of the index. -/
def addDiagnostics (build : Build) (ds : List Diagnostic) : Build :=
  { build with index.diagnostics := build.index.diagnostics ++ ds }

/-- The report of a build. -/
def report (build : Build) : Report :=
  ⟨build.lookupRoot, build.index.registry, build.index.diagnostics⟩

/-- Documents the record that a target names; the diagnostics of the page are added to those of
the build. -/
def autodoc (build : Build) (options : DocOptions) (kind : Kind) (target : String)
    (more : List String) (allMembers : Bool) : Build × Page × Bool :=
  let (page, found) :=
    Documenter.generate build.index.registry options kind target more allMembers {}
  (build.addDiagnostics page.diagnostics, page, found)

end Build

end ContractDocs
