/-
Reading the words of a command line by a table of options. An option that
takes a value may have it in the same word or in the next one; the value is
judged when the next word turns out not to belong to it (`State.settle`). An
unknown word is reported before such a value, any other word after it.
-/

namespace ContractDocs.CommandLine

-- ============================================================= faults

/-- Why a command line is not run. Asking for help or for the version counts too. -/
inductive Usage where
  | unknownArgument
  /-- A value that is missing, empty, or none of the possible ones. -/
  | invalidValue
  /-- A value that its option cannot read. -/
  | valueRefused
  | tooManyValues
  | missingArgument
  | missingSubcommand
  | invalidSubcommand
  /-- An option that may stand only once stands twice. -/
  | conflict
  | help
  | version
  /-- Nothing at all was asked for. -/
  | helpForNothing
deriving DecidableEq, Repr, Inhabited

/-- The exit code: success when help or the version was asked for. -/
def Usage.exitCode : Usage → Nat
  | .help | .version => 0
  | _ => 2

-- ============================================================ options

/-- What an option does. -/
inductive Action where
  | help
  | version
  /-- Counts how often it stands. -/
  | count
  /-- Is on or off. -/
  | switch
  /-- Takes one value, once. -/
  | set
  /-- Takes a value every time it stands. -/
  | append
  /-- Takes any number of values, none included, every time it stands. -/
  | appendMany
deriving DecidableEq, Repr

namespace Action

/-- Whether an option has values. -/
def takesValue : Action → Bool
  | set | append | appendMany => true
  | _ => false

/-- Whether an option may stand only once. -/
def once : Action → Bool
  | set | switch => true
  | _ => false

end Action

/-- An option of a command. -/
structure OptionSpec where
  long : String
  short : Option Char := none
  action : Action
  /-- A comma in a value separates several. -/
  commas : Bool := false
  /-- What is wrong with a value. -/
  refuse : String → Option Usage := fun _ => none

/-- The words that a command understands. -/
structure CommandSpec where
  options : List OptionSpec
  /-- The argument that is no option, if the command has one. -/
  argument : Option String := none
  /-- The names that must be there. -/
  required : List String := []
  subcommands : List String := []

/-- The values that were given, by the name of their option, in order. -/
abbrev Given := List (String × List String)

namespace Given

/-- Whether an option stands on the command line. -/
def has (given : Given) (name : String) : Bool :=
  given.any (·.1 = name)

/-- All values of an option. -/
def all (given : Given) (name : String) : List String :=
  (given.filter (·.1 = name)).flatMap (·.2)

/-- The value of an option. -/
def get? (given : Given) (name : String) : Option String :=
  (given.all name).head?

/-- All values of an option, or none when it does not stand on the command line. -/
def all? (given : Given) (name : String) : Option (List String) :=
  if given.has name then some (given.all name) else none

/-- How often an option stands; the count ends at 255. -/
def count (given : Given) (name : String) : Nat :=
  min 255 (given.filter (·.1 = name)).length

end Given

-- ============================================================== state

/-- The state of reading a command line. -/
structure State where
  given : Given := []
  /-- The option whose values are being collected. -/
  pending : Option (OptionSpec × List String) := none
  /-- Whether the next word may be a value of that option. -/
  wantsValue : Bool := false
  /-- After `--` no word is an option. -/
  literal : Bool := false

namespace State

/-- Takes an option with its values. -/
def take (state : State) (option : OptionSpec) (values : List String) : Except Usage State := do
  let split := if option.commas then values.flatMap fun value =>
      (value.toList.splitOn ',').map String.ofList
    else values
  match option.action with
  | .help => throw .help
  | .version => throw .version
  | action =>
    if values.isEmpty && (action = .set || action = .append) then throw .invalidValue
    if action.once && state.given.has option.long then throw .conflict
    match split.findSome? option.refuse with
    | some usage => throw usage
    | none => return { state with given := state.given ++ [(option.long, split)] }

/-- Takes the option whose values were being collected. -/
def settle (state : State) : Except Usage State :=
  match state.pending with
  | none => .ok { state with wantsValue := false }
  | some (option, values) =>
    take { state with pending := none, wantsValue := false } option values

/-- Takes an option that is complete in one word. -/
def takeNow (state : State) (option : OptionSpec) (values : List String) :
    Except Usage State := do
  (← state.settle).take option values

/-- Starts to collect the values of an option. -/
def collect (state : State) (option : OptionSpec) : Except Usage State := do
  return { (← state.settle) with pending := some (option, []), wantsValue := true }

end State

-- ============================================================== words

namespace CommandSpec

/-- Reads a word that starts with two dashes; a value may follow an equals sign. -/
def longOption (spec : CommandSpec) (state : State) (word : List Char) : Except Usage State :=
  let name := word.takeWhile (· ≠ '=')
  let value := (word.dropWhile (· ≠ '=')).tail
  let attached := name.length < word.length
  match spec.options.find? (·.long.toList = name) with
  | none => .error .unknownArgument
  | some option =>
    if option.action.takesValue then
      if attached then state.takeNow option [String.ofList value] else state.collect option
    else if attached then .error .tooManyValues
    else state.takeNow option []

/-- Reads the letters of a word that starts with one dash. What follows the letter of an option with
a value is that value. -/
def shortOptions (spec : CommandSpec) (state : State) : List Char → Except Usage State
  | [] => .ok state
  | c :: rest =>
    match spec.options.find? (·.short = some c) with
    | none => .error .unknownArgument
    | some option =>
      if !option.action.takesValue then do
        spec.shortOptions (← state.takeNow option []) rest
      else match rest with
        | [] => state.collect option
        | '=' :: value => state.takeNow option [String.ofList value]
        | value => state.takeNow option [String.ofList value]

/-- Gives the next word to the option whose values are being collected. -/
def addValue (state : State) (word : String) : State :=
  match state.pending with
  | some (option, values) =>
    { state with
      pending := some (option, values ++ [word])
      wantsValue := option.action = .appendMany }
  | none => state

/-- Reads a word that is neither an option nor the value of one. -/
def argumentWord (spec : CommandSpec) (state : State) (word : String) : Except Usage State :=
  match spec.argument with
  | some name =>
    if state.given.has name then .error .unknownArgument
    else state.settle.map fun state => { state with given := state.given ++ [(name, [word])] }
  | none =>
    if spec.subcommands.isEmpty || (state.literal && spec.subcommands.contains word) then
      .error .unknownArgument
    else .error .invalidSubcommand

/-- Reads one word. -/
def word (spec : CommandSpec) (state : State) (text : String) : Except Usage State :=
  let other := if state.wantsValue then .ok (addValue state text) else spec.argumentWord state text
  if state.literal then spec.argumentWord state text
  else match text.toList with
    | ['-', '-'] => .ok { state with literal := true }
    | '-' :: '-' :: rest => spec.longOption state rest
    | ['-'] => other
    | '-' :: rest => spec.shortOptions state rest
    | _ => other

/-- Reads words up to the end or to a subcommand, which is handed back with the words after it. -/
def read (spec : CommandSpec) (state : State) :
    List String → Except Usage (Given × Option (String × List String))
  | [] => state.settle.map fun state => (state.given, none)
  | text :: rest =>
    if !state.literal && !state.wantsValue && spec.subcommands.contains text then
      state.settle.map fun state => (state.given, some (text, rest))
    else do spec.read (← spec.word state text) rest

/-- Reads the words of a command without subcommands. -/
def readAll (spec : CommandSpec) (words : List String) : Except Usage Given := do
  let (given, _) ← spec.read {} words
  if spec.required.all given.has then return given else throw .missingArgument

end CommandSpec

end ContractDocs.CommandLine
