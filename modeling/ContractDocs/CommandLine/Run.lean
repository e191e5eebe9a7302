/-
Running a command over a tree of files. A command writes to two streams and
ends with an exit code: zero, one for a result with errors in it, or two when
there is no result.
-/
import ContractDocs.Build
import ContractDocs.CommandLine.Command
import ContractDocs.Config.Document
import ContractDocs.Json.Printer
import ContractDocs.Signature.Header

namespace ContractDocs.CommandLine

/-- What a command leaves behind. -/
structure Outcome where
  exitCode : Nat
  stdout : String := ""
  stderr : String := ""
deriving DecidableEq, Repr, Inhabited

namespace Outcome

/-- Everything went well. -/
def success : Nat := 0

/-- The result has errors in it. -/
def failed : Nat := 1

/-- There is no result. -/
def refused : Nat := 2

/-- The outcome of a command that a failure kept from running. -/
def ofFailure (failure : Failure) : Outcome :=
  { exitCode := refused, stderr := "Error: " ++ failure.message ++ "\n" }

end Outcome

-- ====================================================== configuration

namespace BuildOptions

/-- The configuration with what the command line says in its place. -/
def override (options : BuildOptions) (config : Config) : Config :=
  { lookupPath := options.lookupPath.getD config.lookupPath
    excludedPaths := config.excludedPaths ++ options.exclude
    includeHidden := config.includeHidden || options.includeHidden
    onFileError := options.onFileError.getD config.onFileError }

/-- The configuration of a build: that of the file the command line names, or of the one in the
working directory, with the changes of the command line. -/
def config (options : BuildOptions) (files : Files) : Except Failure Config := do
  let base ← match options.configFile with
    | some path => Config.load files path
    | none => do
      match ← Config.discover files "." with
      | some (_, config) => pure config
      | none => pure {}
  let config := options.override base
  let _ ← config.exclusions
  return config

/-- The build that the options ask for. -/
def build (options : BuildOptions) (files : Files) : Except Failure Build := do
  Build.init files options.docsRoot (← options.config files)

end BuildOptions

-- ============================================================== index

/-- Runs `index`. -/
def runIndex (colored : Bool) (files : Files) (options : BuildOptions) (format : Format) :
    Outcome :=
  match options.build files with
  | .error failure => .ofFailure failure
  | .ok build =>
    let text := match format with
      | .json => build.report.toJson.pretty ++ "\n"
      | .pretty => build.report.render colored
    let failed := Diagnostic.hasErrors build.index.diagnostics
    { exitCode := if failed then Outcome.failed else Outcome.success, stdout := text }

-- ========================================================== signature

/-- The target text of a signature: its name, with the parameter types if it has parameters. -/
def targetText (sig : Signature) : Option String :=
  match sig.paramTypes with
  | some types => some (sig.name.getD "" ++ "(" ++ ",".intercalate types ++ ")")
  | none => sig.name

/-- The rows of the table for a signature. -/
def signatureRows (kind : Kind) (sig : Signature) : List (String × String) :=
  [("kind", kind.name), ("signature", sig.render)]
    ++ (sig.name.map (("name", ·))).toList
    ++ (sig.valueType.map (("type", ·))).toList
    ++ (sig.paramTypes.map fun types => ("params", "(" ++ ",".intercalate types ++ ")")).toList
    ++ ((targetText sig).map (("target", ·))).toList

/-- Runs `signature`. -/
def runSignature (colored : Bool) (kind : Kind) (header : String) : Outcome :=
  match Signature.read kind header with
  | .error reason =>
    let failure := Failure.malformed kind header reason.message
    { exitCode := Outcome.failed
      stderr := Paint.red.apply colored "Error:" ++ " " ++ failure.message ++ "\n" }
  | .ok sig =>
    let row := fun (label, text) => Paint.dim.apply colored (padRight 12 label) ++ text ++ "\n"
    { exitCode := Outcome.success, stdout := String.join ((signatureRows kind sig).map row) }

-- ============================================================ autodoc

/-- The line of a diagnostic. -/
def diagnosticLine (colored : Bool) (d : Diagnostic) : String :=
  let tag := match d.severity with
    | .error => Paint.red
    | .warning => Paint.yellow
    | .info => Paint.blue
  let place := match d.location with
    | some location => location ++ ": "
    | none => ""
  tag.apply colored d.severity.name ++ ": " ++ place ++ d.message ++ "\n"

/-- Runs `autodoc`. -/
def runAutodoc (colored : Bool) (files : Files) (kind : Kind) (target : String)
    (buildOptions : BuildOptions) (options : DocOptions) : Outcome :=
  match buildOptions.build files with
  | .error failure => .ofFailure failure
  | .ok build =>
    let (build, page, found) := build.autodoc options kind target [] (options.members = .all)
    let diagnostics := build.index.diagnostics
    let failed := !found || Diagnostic.hasErrors diagnostics
    { exitCode := if failed then Outcome.failed else Outcome.success
      stdout := if found then page.output else ""
      stderr := String.join (diagnostics.map (diagnosticLine colored)) }

/-- Runs a command. -/
def Command.run (colored : Bool) (files : Files) : Command → Outcome
  | .index options format => runIndex colored files options format
  | .signature kind header => runSignature colored kind header
  | .autodoc kind target build options => runAutodoc colored files kind target build options

end ContractDocs.CommandLine
