/-
Which paths a pattern accepts. Patterns work on the UTF-8 bytes of a path.
A part leaves several rests of a text behind, since a wildcard may stop
anywhere; `Part.rests` computes all of them at once. The rests of one text
are told apart by their lengths, and the lists here hold the longest first
and no rest twice. A path whose last name is `..` names no file, and most
patterns that end in a dot do not accept it (`needsName`).
-/
import ContractDocs.Glob.Pattern
import ContractDocs.Text.Utf8

namespace ContractDocs.Glob

/-- The byte of a slash. -/
def slash : UInt8 := 47

/-- The byte of a dot. -/
def dot : UInt8 := 46

-- ============================================================== bytes

/-- Whether a byte lies in a range of a class. The bytes of the two ends are strung together, with
the range between the last byte of the first end and the first byte of the second. -/
def inRange (b : UInt8) (range : Char × Char) : Bool :=
  let lo := String.utf8EncodeChar range.1
  let hi := String.utf8EncodeChar range.2
  if range.1 = range.2 then lo.contains b
  else
    lo.dropLast.contains b || hi.tail.contains b ||
      (lo.getLastD 0 ≤ b && b ≤ hi.headD 0)

/-- What follows `lead` in bytes that start with it. -/
def afterBytes : Bytes → Bytes → Option Bytes
  | [], rest => some rest
  | _ :: _, [] => none
  | l :: lead, b :: rest => if l = b then afterBytes lead rest else none

-- ============================================================== rests

/-- The text and everything left of it after some of its bytes. -/
def suffixes : Bytes → List Bytes
  | [] => [[]]
  | b :: rest => (b :: rest) :: suffixes rest

/-- What follows each slash of a text. -/
def afterSlashes : Bytes → List Bytes
  | [] => []
  | b :: rest => if b = slash then rest :: afterSlashes rest else afterSlashes rest

/-- All rests of two lists, the longest first. -/
def union : List Bytes → List Bytes → List Bytes
  | [], others => others
  | rests, [] => rests
  | r :: rs, s :: ss =>
    if s.length < r.length then r :: union rs (s :: ss)
    else if r.length < s.length then s :: union (r :: rs) ss
    else r :: union rs ss
termination_by rests others => rests.length + others.length

/-- The rest of a text behind one byte that passes a test. -/
def afterByte (test : UInt8 → Bool) : Bytes → Option Bytes
  | [] => none
  | b :: rest => if test b then some rest else none

/-- The longest rest behind a slash. -/
def behindSlash (rests : List Bytes) : Option Bytes :=
  rests.findSome? (afterByte (· = slash))

mutual

/-- Whether a part stands for nothing at all: a group all of whose branches are empty. -/
def Part.isVoid : Part → Bool
  | .group branches => allVoid branches
  | _ => false

/-- Whether every part of a branch stands for nothing. -/
def isVoidBranch : List Part → Bool
  | [] => true
  | part :: parts => part.isVoid && isVoidBranch parts

/-- Whether every branch stands for nothing. -/
def allVoid : List (List Part) → Bool
  | [] => true
  | branch :: branches => isVoidBranch branch && allVoid branches

end

mutual

/-- What a part leaves of the rests it starts from. The longest rest a wildcard can start from
leaves behind all that the shorter ones do. -/
def Part.rests (rests : List Bytes) : Part → List Bytes
  | .char c => rests.filterMap (afterBytes (String.utf8EncodeChar c))
  | .anyByte => rests.filterMap (afterByte fun _ => true)
  | .anyText => rests.head?.elim [] suffixes
  | .leadingDirs => union rests (rests.head?.elim [] afterSlashes)
  | .innerDirs => (behindSlash rests).elim [] fun rest => rest :: afterSlashes rest
  | .allBelow => (behindSlash rests).elim [] suffixes
  | .oneOf negated ranges =>
    rests.filterMap (afterByte fun b => ranges.any (inRange b) != negated)
  | .group branches => if allVoid branches then rests else branchRests rests branches

/-- What a sequence of parts leaves. -/
def seqRests (rests : List Bytes) : List Part → List Bytes
  | [] => rests
  | part :: parts => seqRests (part.rests rests) parts

/-- What the branches of a group leave; a branch that stands for nothing is no branch. -/
def branchRests (rests : List Bytes) : List (List Part) → List Bytes
  | [] => []
  | branch :: branches =>
    if isVoidBranch branch then branchRests rests branches
    else union (seqRests rests branch) (branchRests rests branches)

end

-- ============================================================== names

/-- Whether the last name of a path is `..`, which names no file. -/
def endsInParent (path : Bytes) : Bool :=
  path.reverse.takeWhile (· ≠ slash) = [dot, dot]

/-- Whether parts are characters only. -/
def isText : List Part → Bool
  | [] => true
  | .char _ :: parts => isText parts
  | _ => false

/-- Whether parts are characters behind the wildcards that accept any start of a path, so that the
end of a path alone decides. -/
def isEnding : List Part → Bool
  | .leadingDirs :: .anyText :: parts | .leadingDirs :: parts | .anyText :: parts => isText parts
  | parts => isText parts

/-- Whether a pattern only accepts paths that name a file. These are the pattern of one last name,
that of the empty extension, and all that end in a dot and are not decided by the end of a path. -/
def needsName : List Part → Bool
  | [.leadingDirs, .char '.', .char '.'] => true
  | [.leadingDirs, .anyText, .char '.'] | [.anyText, .char '.'] => true
  | parts =>
    match parts.getLast? with
    | some (.char '.') => !isEnding parts
    | _ => false

/-- Whether a pattern accepts a path. A `**` alone accepts every path. -/
def accepts (glob : Glob) (path : String) : Bool :=
  let bytes := Text.utf8 path.toList
  match glob.parts with
  | [.leadingDirs] => true
  | parts =>
    !(needsName parts && endsInParent bytes) && (seqRests [bytes] parts).any List.isEmpty

/-- Whether one of the patterns accepts a path. -/
def anyAccepts (globs : List Glob) (path : String) : Bool :=
  globs.any (·.accepts path)

end ContractDocs.Glob
