/-
Path patterns. A pattern is a sequence of parts: characters, wildcards,
character classes, groups of alternatives, and the three forms that `**`
takes between slashes. `read` turns the text of a pattern into its parts or
says what is wrong with it.
-/
import ContractDocs.Text.Words

namespace ContractDocs.Glob

-- ============================================================== parts

/-- A piece of a pattern. -/
inductive Part where
  | char (c : Char)
  /-- `?`: one byte. -/
  | anyByte
  /-- `*`: any bytes, slashes too. -/
  | anyText
  /-- `**/` at the start: nothing, or all up to some slash. -/
  | leadingDirs
  /-- `/**/`: a slash, or all from one slash to another. -/
  | innerDirs
  /-- `/**` at the end: a slash and all after it. -/
  | allBelow
  /-- `[a-z]`: one byte of the ranges, or with `[!a-z]` one that is in none of them. -/
  | oneOf (negated : Bool) (ranges : List (Char × Char))
  /-- `{a,b}`: what one of the branches accepts. -/
  | group (branches : List (List Part))
deriving Repr, Inhabited

/-- What is wrong with the text of a pattern. -/
inductive Fault where
  | unclosedClass
  | invalidRange (lo hi : Char)
  | unopenedGroup
  | unclosedGroup
  | danglingEscape
deriving DecidableEq, Repr

namespace Fault

/-- The fault in words. -/
def reason : Fault → String
  | unclosedClass => "unclosed character class; missing ']'"
  | invalidRange lo hi => "invalid range; '" ++ lo.toString ++ "' > '" ++ hi.toString ++ "'"
  | unopenedGroup =>
    "unopened alternate group; missing '\x7b' (maybe escape '\x7d' with '[\x7d]'?)"
  | unclosedGroup =>
    "unclosed alternate group; missing '\x7d' (maybe escape '\x7b' with '[\x7b]'?)"
  | danglingEscape => "dangling '\\'"

/-- The fault in words, with the pattern it was found in. -/
def message (fault : Fault) (pattern : String) : String :=
  "error parsing glob '" ++ pattern ++ "': " ++ fault.reason

end Fault

-- ============================================================ classes

/-- The ranges of a class with the upper end of the last one moved to `c`. -/
def closeRange (c : Char) : List (Char × Char) → Except Fault (List (Char × Char))
  | [] => .ok [(c, c)]
  | [(lo, _)] => if c < lo then .error (.invalidRange lo c) else .ok [(lo, c)]
  | range :: ranges => (closeRange c ranges).map (range :: ·)

/-- Reads the ranges of a class up to its closing bracket. A bracket or a dash is an ordinary
character in front, and a dash also at the end; `dashed` holds after a dash that waits for the
upper end of a range. -/
def readRanges (ranges : List (Char × Char)) (dashed : Bool) :
    List Char → Except Fault (List (Char × Char) × List Char)
  | [] => .error .unclosedClass
  | c :: rest =>
    if c = ']' ∧ ranges ≠ [] then
      .ok (if dashed then ranges ++ [('-', '-')] else ranges, rest)
    else if c = '-' ∧ ranges ≠ [] ∧ !dashed then readRanges ranges true rest
    else if dashed then
      match closeRange c ranges with
      | .ok closed => readRanges closed false rest
      | .error fault => .error fault
    else readRanges (ranges ++ [(c, c)]) false rest

/-- Reads a class after its opening bracket. -/
def readClass : List Char → Except Fault (Part × List Char)
  | '!' :: rest | '^' :: rest =>
    (readRanges [] false rest).map fun (ranges, rest) => (.oneOf true ranges, rest)
  | rest => (readRanges [] false rest).map fun (ranges, rest) => (.oneOf false ranges, rest)

theorem length_readRanges_lt {ranges : List (Char × Char)} {dashed : Bool} {cs : List Char}
    {found : List (Char × Char)} {rest : List Char}
    (h : readRanges ranges dashed cs = .ok (found, rest)) : rest.length < cs.length := by
  fun_induction readRanges ranges dashed cs <;> grind

theorem length_readClass_lt {cs : List Char} {part : Part} {rest : List Char}
    (h : readClass cs = .ok (part, rest)) : rest.length < cs.length := by
  unfold readClass at h
  split at h <;> revert h <;> cases hr : readRanges [] false _ <;>
    simp_all [Except.map] <;> rintro - rfl <;> have := length_readRanges_lt hr <;>
    simp_all <;> omega

-- =========================================================== patterns

/-- A group that is still open: the parts before it and its finished branches. -/
structure Frame where
  before : List Part
  branches : List (List Part)

/-- The parts with `**` in place of the slash they end in. After another `**` there is nothing to
add. -/
def replaceSlash (wild : Part) (parts : List Part) : List Part :=
  match parts.getLast? with
  | some .leadingDirs | some .allBelow => parts
  | _ => parts.dropLast ++ [wild]

/-- The parts after a `**`, and the text after it. Alone between slashes, or at the start and before
a slash, it stands for directories and takes a slash along; anywhere else it is two `*`. Inside a
group a comma and the braces bound it too. -/
def doubleStar (grouped : Bool) (parts : List Part) (prev : Option Char) (rest : List Char) :
    List Part × List Char :=
  let afterSlash := prev = some '/' || (grouped && (prev = some ',' || prev = some '\x7b'))
  let plain := (parts ++ [.anyText, .anyText], rest)
  match rest with
  | '/' :: more =>
    if parts.isEmpty then ([.leadingDirs], more)
    else if afterSlash then (replaceSlash .innerDirs parts, more)
    else plain
  | [] =>
    if parts.isEmpty then ([.leadingDirs], [])
    else if afterSlash then (replaceSlash .allBelow parts, [])
    else plain
  | c :: _ =>
    if !parts.isEmpty && afterSlash && grouped && (c = ',' || c = '\x7d') then
      (replaceSlash .allBelow parts, rest)
    else plain

theorem length_doubleStar_le (grouped : Bool) (parts : List Part) (prev : Option Char)
    (rest : List Char) : (doubleStar grouped parts prev rest).2.length ≤ rest.length := by
  unfold doubleStar
  grind

/-- Reads a pattern from some point on. `parts` are those of the innermost open branch, and `prev`
is the character before. -/
def readFrom (groups : List Frame) (parts : List Part) (prev : Option Char) (cs : List Char) :
    Except Fault (List Part) :=
  match cs with
  | [] => if groups.isEmpty then .ok parts else .error .unclosedGroup
  | '*' :: '*' :: rest =>
    have := length_doubleStar_le (!groups.isEmpty) parts prev rest
    let step := doubleStar (!groups.isEmpty) parts prev rest
    let last := if step.2.length < rest.length then '/' else '*'
    readFrom groups step.1 (some last) step.2
  | '*' :: rest => readFrom groups (parts ++ [.anyText]) (some '*') rest
  | '?' :: rest => readFrom groups (parts ++ [.anyByte]) (some '?') rest
  | '[' :: rest =>
    match h : readClass rest with
    | .error fault => .error fault
    | .ok (part, rest) =>
      have := length_readClass_lt h
      readFrom groups (parts ++ [part]) (some ']') rest
  | '\x7b' :: rest => readFrom (⟨parts, []⟩ :: groups) [] (some '\x7b') rest
  | '\x7d' :: rest =>
    match groups with
    | [] => .error .unopenedGroup
    | frame :: groups =>
      readFrom groups (frame.before ++ [.group (frame.branches ++ [parts])]) (some '\x7d') rest
  | ',' :: rest =>
    match groups with
    | [] => readFrom [] (parts ++ [.char ',']) (some ',') rest
    | frame :: groups =>
      readFrom (⟨frame.before, frame.branches ++ [parts]⟩ :: groups) [] (some ',') rest
  | ['\\'] => .error .danglingEscape
  | '\\' :: c :: rest => readFrom groups (parts ++ [.char c]) (some c) rest
  | c :: rest => readFrom groups (parts ++ [.char c]) (some c) rest
termination_by cs.length
decreasing_by all_goals simp_wf <;> omega

end ContractDocs.Glob

namespace ContractDocs

/-- A pattern that was read. -/
structure Glob where
  parts : List Glob.Part
deriving Repr, Inhabited

namespace Glob

/-- Reads a pattern. -/
def read (pattern : String) : Except Fault Glob :=
  (readFrom [] [] none pattern.toList).map Glob.mk

end Glob

end ContractDocs
