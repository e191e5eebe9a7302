/-
Documentation comments. Line comments that start with at least three
slashes and block comments that start with two stars document what follows
them; any other comment is passed over.
-/
import ContractDocs.Text.Words

namespace ContractDocs.Comments

open Text

/-- A line comment for documentation. -/
def isDocLine (comment : List Char) : Bool :=
  ['/', '/', '/'].isPrefixOf comment

/-- A block comment for documentation, delimiters apart from one another. -/
def isDocBlock (comment : List Char) : Bool :=
  ['/', '*', '*'].isPrefixOf comment && ['*', '/'].isSuffixOf comment && 5 ≤ comment.length

/-- A line of a block without the blanks and stars before it. -/
def blockLine (line : List Char) : List Char :=
  trim ((trim line).dropWhile (· = '*'))

/-- The lines a comment contributes. -/
def docLines (comment : List Char) : List (List Char) :=
  if isDocLine comment then [trim (comment.dropWhile (· = '/'))]
  else if isDocBlock comment then
    (lines ((comment.drop 3).take (comment.length - 5))).map blockLine
  else []

/-- Drops the empty lines at both ends. -/
def dropBlankEnds (ls : List (List Char)) : List (List Char) :=
  ((ls.dropWhile (·.isEmpty)).reverse.dropWhile (·.isEmpty)).reverse

/-- The documentation that a run of comments holds, on characters. -/
def documentationChars (comments : List (List Char)) : List Char :=
  ['\n'].intercalate (dropBlankEnds (comments.flatMap docLines))

/-- The documentation that a run of comments holds. -/
def documentation (comments : List String) : String :=
  String.ofList (documentationChars (comments.map String.toList))

end ContractDocs.Comments
