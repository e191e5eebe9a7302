/-
Bracketed lists. `splitTopLevel` cuts an argument list at the commas that
no bracket encloses, and `closeGroup` finds the parenthesis that closes an
open one.
-/
import ContractDocs.Text.Words

namespace ContractDocs.Grouping

open Text

/-- How a character changes the bracket depth; the three kinds of bracket count alike. -/
def depthStep (c : Char) : Int :=
  if c = '(' || c = '[' || c = '\x7b' then 1
  else if c = ')' || c = ']' || c = '\x7d' then -1
  else 0

/-- The pieces between commas at depth zero, starting at `depth` with `piece` already read,
latest character first. The depth may fall below zero, and then no comma cuts. -/
def pieces (depth : Int) (piece : List Char) : List Char → List (List Char)
  | [] => [piece.reverse]
  | c :: rest =>
    if c = ',' && depth = 0 then piece.reverse :: pieces depth [] rest
    else pieces (depth + depthStep c) (c :: piece) rest

/-- The entries of an argument list, on characters: blanks collapsed, empty entries dropped. -/
def splitTopLevelChars (list : List Char) : List (List Char) :=
  ((pieces 0 [] list).map collapse).filter (!·.isEmpty)

/-- The entries of an argument list. -/
def splitTopLevel (list : String) : List String :=
  (splitTopLevelChars list.toList).map String.ofList

/-- What stands before and after the parenthesis that closes `depth` inner groups and then the
group whose opening parenthesis has just been read. -/
def closeGroup (depth : Nat) : List Char → Option (List Char × List Char)
  | [] => none
  | ')' :: rest =>
    match depth with
    | 0 => some ([], rest)
    | depth + 1 => (closeGroup depth rest).map fun (inner, after) => (')' :: inner, after)
  | c :: rest =>
    (closeGroup (if c = '(' then depth + 1 else depth) rest).map
      fun (inner, after) => (c :: inner, after)

/-- A closed group is the text up to its parenthesis: nothing is lost. -/
theorem eq_append_of_closeGroup {depth : Nat} {text inner after : List Char}
    (h : closeGroup depth text = some (inner, after)) : text = inner ++ ')' :: after := by
  fun_induction closeGroup depth text generalizing inner after with
  | case1 => simp at h
  | case2 rest => simp_all
  | case3 rest depth ih =>
    obtain ⟨⟨i, a⟩, hclose, heq⟩ := Option.map_eq_some_iff.1 h
    simp only [Prod.mk.injEq] at heq
    obtain ⟨rfl, rfl⟩ := heq
    simp [ih hclose]
  | case4 depth c rest _ ih =>
    obtain ⟨⟨i, a⟩, hclose, heq⟩ := Option.map_eq_some_iff.1 h
    simp only [Prod.mk.injEq] at heq
    obtain ⟨rfl, rfl⟩ := heq
    simp [ih hclose]

end ContractDocs.Grouping
