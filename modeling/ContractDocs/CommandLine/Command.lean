/-
The commands of the program and their options: indexing a source directory,
checking one signature, and documenting one declaration.
-/
import ContractDocs.CommandLine.Arguments
import ContractDocs.Config.Basic
import ContractDocs.Docs.Options

namespace ContractDocs.CommandLine

-- =========================================================== commands

/-- Where the sources are and how they are indexed. -/
structure BuildOptions where
  docsRoot : String := "."
  configFile : Option String := none
  lookupPath : Option String := none
  exclude : List String := []
  includeHidden : Bool := false
  onFileError : Option FilePolicy := none
deriving DecidableEq, Repr, Inhabited

/-- The form of a report. -/
inductive Format where
  | pretty
  | json
deriving DecidableEq, Repr, Inhabited

namespace Format

/-- Reads a form. -/
def ofName? : String → Option Format
  | "pretty" => some pretty
  | "json" => some json
  | _ => none

end Format

/-- What the program is asked to do. -/
inductive Command where
  | index (build : BuildOptions) (format : Format)
  | signature (kind : Kind) (header : String)
  | autodoc (kind : Kind) (target : String) (build : BuildOptions) (options : DocOptions)
deriving DecidableEq, Repr

/-- A command, with how much of its progress to tell. -/
structure Invocation where
  verbose : Nat
  command : Command
deriving DecidableEq, Repr

-- ============================================================ options

/-- Refuses a value that `read` does not understand. -/
def mustRead {α : Type} (read : String → Option α) (usage : Usage) (value : String) :
    Option Usage :=
  if (read value).isSome then none else some usage

/-- Refuses an empty path. -/
def mustBePath (value : String) : Option Usage :=
  if value.isEmpty then some .invalidValue else none

/-- The options every command has. -/
def sharedOptions : List OptionSpec :=
  [{ long := "verbose", short := some 'v', action := .count },
   { long := "help", short := some 'h', action := .help }]

/-- The option for the kind of a declaration. -/
def kindOption : OptionSpec :=
  { long := "kind", short := some 'k', action := .set
    refuse := mustRead Kind.ofText? .valueRefused }

/-- The options for indexing. -/
def buildOptions : List OptionSpec :=
  [{ long := "docs-root", short := some 'd', action := .set, refuse := mustBePath },
   { long := "config", short := some 'c', action := .set, refuse := mustBePath },
   { long := "lookup-path", short := some 'l', action := .set, refuse := mustBePath },
   { long := "exclude", short := some 'e', action := .append },
   { long := "include-hidden", action := .switch },
   { long := "on-file-error", action := .set
     refuse := mustRead FilePolicy.ofName? .invalidValue }]

/-- The words before the name of a command. -/
def programSpec : CommandSpec :=
  { options := sharedOptions ++ [{ long := "version", short := some 'V', action := .version }]
    subcommands := ["index", "signature", "autodoc", "help"] }

/-- The words of `index`. -/
def indexSpec : CommandSpec :=
  { options := sharedOptions ++ buildOptions ++
      [{ long := "format", short := some 'f', action := .set
         refuse := mustRead Format.ofName? .invalidValue }] }

/-- The words of `signature`. -/
def signatureSpec : CommandSpec :=
  { options := sharedOptions ++ [kindOption]
    argument := some "header"
    required := ["kind", "header"] }

/-- The words of `autodoc`. -/
def autodocSpec : CommandSpec :=
  { options := sharedOptions ++ [kindOption] ++ buildOptions ++
      [{ long := "members", action := .appendMany, commas := true },
       { long := "undoc-members", action := .switch },
       { long := "exclude-members", action := .append, commas := true },
       { long := "noindex", action := .switch }]
    argument := some "target"
    required := ["kind", "target"] }

-- ============================================================ reading

/-- The kind that was given. -/
def Given.kind (given : Given) : Kind :=
  ((given.get? "kind").bind Kind.ofText?).getD .contract

/-- The options for indexing that were given. -/
def Given.build (given : Given) : BuildOptions :=
  { docsRoot := (given.get? "docs-root").getD "."
    configFile := given.get? "config"
    lookupPath := given.get? "lookup-path"
    exclude := given.all "exclude"
    includeHidden := given.has "include-hidden"
    onFileError := (given.get? "on-file-error").bind FilePolicy.ofName? }

/-- The options of an entry that were given. -/
def Given.doc (given : Given) : DocOptions :=
  { members := MemberSelection.ofOption (given.all? "members")
    undocMembers := given.has "undoc-members"
    excludeMembers := given.all "exclude-members"
    noindex := given.has "noindex" }

/-- Reads the words after the name of a command. -/
def readCommand (name : String) (words : List String) : Except Usage (Given × Command) :=
  match name with
  | "index" => do
    let given ← indexSpec.readAll words
    return (given, .index given.build (((given.get? "format").bind Format.ofName?).getD .pretty))
  | "signature" => do
    let given ← signatureSpec.readAll words
    return (given, .signature given.kind ((given.get? "header").getD ""))
  | "autodoc" => do
    let given ← autodocSpec.readAll words
    return (given, .autodoc given.kind ((given.get? "target").getD "") given.build given.doc)
  | _ =>
    match words with
    | [] => throw .help
    | [topic] =>
      throw (if programSpec.subcommands.contains topic then .help else .invalidSubcommand)
    | _ => throw .invalidSubcommand

/-- Reads a command line. The count of `-v` after the name of the command wins over that before
it. -/
def Invocation.read (words : List String) : Except Usage Invocation := do
  match ← programSpec.read {} words with
  | (before, some (name, rest)) =>
    let (after, command) ← readCommand name rest
    let given := if after.has "verbose" then after else before
    return ⟨given.count "verbose", command⟩
  | (before, none) => throw (if before.isEmpty then .helpForNothing else .missingSubcommand)

end ContractDocs.CommandLine
