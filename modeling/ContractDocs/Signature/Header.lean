/-
Directive headers: the one-line signatures that authors type. Each shape of
header has its reader, and a reader that gives up says why (`Malformed`).

A callable is read in three steps: its name and parameter list, then the
clauses after the list (`clauses`: words, each with the group that follows
it), then what each clause means (`Tail.add`). A fault in the text of the
clauses counts only once the clauses before it have been accepted.
-/
import ContractDocs.Kind
import ContractDocs.Signature.Grouping
import ContractDocs.Signature.Slot
import ContractDocs.Text.Quoted

namespace ContractDocs

open Text Grouping

/-- Why a header is refused. -/
inductive Malformed where
  | notTypeHeader
  | notVariable
  | unnamedVariable
  | notCallable
  | unbalanced
  | fallbackParameters
  | unnamed
  | badParameter (text : String)
  | modifierTail
  | unexpected (text : String)
  | returnsWithoutList
  | repeatedReturns
  | keywordArguments (word : String)
deriving DecidableEq, Repr

namespace Malformed

/-- The reason in words. -/
def message : Malformed → String
  | notTypeHeader => "expected `Name [is A, B]`"
  | notVariable => "expected `type [modifier] name`"
  | unnamedVariable => "missing variable name"
  | notCallable => "expected `name(params) ...`"
  | unbalanced => "unbalanced parentheses"
  | fallbackParameters => "the fallback function takes no parameters"
  | unnamed => "missing name"
  | badParameter text => "unrecognized parameter " ++ quote text
  | modifierTail => "modifiers cannot carry modifiers"
  | unexpected text => "unexpected " ++ quote text
  | returnsWithoutList => "`returns` needs a parameter list"
  | repeatedReturns => "duplicate `returns`"
  | keywordArguments word => "`" ++ word ++ "` takes no arguments"

end Malformed

-- ====================================================== type headers

namespace TypeHeader

/-- A name between blanks. -/
def readName (text : List Char) : Option String :=
  let name := trim text
  if !name.isEmpty && name.all isWord then some (String.ofList name) else none

/-- The bases after the word `is`, which has blanks on both sides. -/
def readBases (text : List Char) : Option (List String) := do
  guard (text.head?.any isBlank)
  let list ← afterLead ['i', 's'] (trimStart text)
  guard (list.head?.any isBlank)
  (list.splitOn ',').mapM readName

/-- Reads `Name` or `Name is A, B`. -/
def read (text : List Char) : Except Malformed TypeHeader :=
  let body := trimStart text
  let name := body.takeWhile isWord
  let rest := body.dropWhile isWord
  if name.isEmpty then .error .notTypeHeader
  else if isBlankText rest then .ok ⟨String.ofList name, []⟩
  else match readBases rest with
    | some bases => .ok ⟨String.ofList name, bases⟩
    | none => .error .notTypeHeader

end TypeHeader

-- =================================================== state variables

namespace VariableHeader

/-- Reads `type [modifier] name`. -/
def read (text : List Char) : Except Malformed VariableHeader :=
  match Slot.read text with
  | none => .error .notVariable
  | some slot =>
    match slot.name with
    | none => .error .unnamedVariable
    | some name =>
      .ok ⟨TypeName.canonical (String.ofList slot.typeText), slot.location.toList, name⟩

end VariableHeader

-- ========================================================= callables

namespace CallableHeader

/-- Reads the entries of a parameter list. -/
def readParams (list : List Char) : Except Malformed (List Param) :=
  (splitTopLevelChars list).mapM fun entry =>
    match Param.read (String.ofList entry) with
    | some param => .ok param
    | none => .error (.badParameter (String.ofList entry))

/-- A callable's name, the text inside its parameter list, and what follows the list. -/
def readHead (text : List Char) : Except Malformed (Option String × List Char × List Char) :=
  let body := trimStart text
  let name := body.takeWhile isWord
  match trimStart (body.dropWhile isWord) with
  | '(' :: rest =>
    match closeGroup 0 rest with
    | some (list, tail) =>
      .ok (if name.isEmpty then none else some (String.ofList name), list, tail)
    | none => .error .unbalanced
  | _ => .error .notCallable

/-- The name a callable of this kind is recorded under when `name` is written. A constructor
has one name only, and a function without a name is the fallback, which takes no parameters. -/
def settleName (kind : Kind) (name : Option String) (list : List Char) :
    Except Malformed (Option String) :=
  match name, kind with
  | some name, _ => .ok (some name)
  | none, .function => if isBlankText list then .ok none else .error .fallbackParameters
  | none, .constructor => .ok (some "constructor")
  | none, _ => .error .unnamed

/-- A word after the parameter list, with the text of the group that follows it. -/
structure Clause where
  word : String
  group : Option (List Char)
deriving DecidableEq, Repr

/-- The clauses after a parameter list, with the fault that stopped the reading, if any. -/
def clauses (text : List Char) : List Clause × Option Malformed :=
  match _hbody : trimStart text with
  | [] => ([], none)
  | c :: more =>
    if _hc : isWord c then
      let word := (c :: more).takeWhile isWord
      let rest := more.dropWhile isWord
      match _hrest : trimStart rest with
      | '(' :: inside =>
        match _hclose : closeGroup 0 inside with
        | some (group, after) =>
          let (others, fault) := clauses after
          (⟨String.ofList word, some group⟩ :: others, fault)
        | none => ([], some .unbalanced)
      | _ =>
        let (others, fault) := clauses rest
        (⟨String.ofList word, none⟩ :: others, fault)
    else ([], some (.unexpected (String.ofList (c :: more))))
termination_by text.length
decreasing_by
  · have hbody := congrArg List.length _hbody
    have hrest := congrArg List.length _hrest
    have hclose := congrArg List.length (eq_append_of_closeGroup _hclose)
    have htext := length_trimStart_le text
    have htrim := length_trimStart_le rest
    have hword : rest.length ≤ more.length := (List.dropWhile_sublist isWord).length_le
    simp only [List.length_cons, List.length_append] at *
    omega
  · have hbody := congrArg List.length _hbody
    have htext := length_trimStart_le text
    have hword : (more.dropWhile isWord).length ≤ more.length :=
      (List.dropWhile_sublist isWord).length_le
    simp only [List.length_cons] at *
    omega

/-- What the clauses read so far amount to. -/
structure Tail where
  modifiers : List Modifier
  returns : Option (List Param)
deriving DecidableEq, Repr

/-- Takes one more clause into account. -/
def Tail.add (tail : Tail) (clause : Clause) : Except Malformed Tail :=
  if clause.word = "returns" then
    match clause.group, tail.returns with
    | none, _ => .error .returnsWithoutList
    | some _, some _ => .error .repeatedReturns
    | some list, none => do
      let params ← readParams list
      .ok ⟨tail.modifiers, some params⟩
  else
    match clause.group with
    | none => .ok ⟨tail.modifiers ++ [.word clause.word], tail.returns⟩
    | some list =>
      if bareKeywords.contains clause.word then .error (.keywordArguments clause.word)
      else
        let args := (splitTopLevelChars list).map String.ofList
        .ok ⟨tail.modifiers ++ [.call clause.word args], tail.returns⟩

/-- Reads everything after the parameter list. -/
def readTail (text : List Char) : Except Malformed Tail := do
  let (found, fault) := clauses text
  let tail ← found.foldlM Tail.add ⟨[], none⟩
  match fault with
  | some reason => .error reason
  | none => .ok tail

/-- Reads `name(params) modifiers returns (params)`. -/
def read (kind : Kind) (text : List Char) : Except Malformed CallableHeader := do
  let (written, list, rest) ← readHead text
  let name ← settleName kind written list
  let params ← readParams list
  if kind = .modifier && !isBlankText rest then
    .error .modifierTail
  else
    let tail ← readTail rest
    .ok ⟨name, params, tail.modifiers, tail.returns⟩

end CallableHeader

-- ======================================================= any header

namespace Signature

/-- Reads the header of a directive of the given kind. -/
def read (kind : Kind) (header : String) : Except Malformed Signature :=
  let text := header.toList
  match kind with
  | .contract | .library | .interface | .struct | .enum => (TypeHeader.read text).map typeLike
  | .stateVar => (VariableHeader.read text).map stateVar
  | .constructor | .function | .modifier | .event =>
    (CallableHeader.read kind text).map callable

end Signature

end ContractDocs
