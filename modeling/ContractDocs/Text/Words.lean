/-
Cutting and joining text: trimming, blank-separated words, lines, and the
cuts at one character. Everything works on lists of characters, which is
where the readers of this library do their work; `String` is met only at
their ends.
-/
import ContractDocs.Text.CharClass

namespace ContractDocs.Text

-- ========================================================== trimming

/-- The text without its leading blanks. -/
def trimStart (cs : List Char) : List Char :=
  cs.dropWhile isBlank

/-- The text without its trailing blanks. -/
def trimEnd (cs : List Char) : List Char :=
  (cs.reverse.dropWhile isBlank).reverse

/-- The text without the blanks around it. -/
def trim (cs : List Char) : List Char :=
  trimEnd (trimStart cs)

/-- Only blanks, or nothing at all. -/
def isBlankText (cs : List Char) : Bool :=
  cs.all isBlank

/-- `trim` on strings. -/
def trimmed (s : String) : String :=
  String.ofList (trim s.toList)

theorem length_trimStart_le (cs : List Char) : (trimStart cs).length ≤ cs.length :=
  (List.dropWhile_sublist isBlank).length_le

-- ============================================================= words

/-- The maximal runs of characters that are not blank. -/
def words (cs : List Char) : List (List Char) :=
  (cs.splitOnP isBlank).filter (!·.isEmpty)

/-- Every run of blanks becomes one space; blanks at the ends go away. -/
def collapse (cs : List Char) : List Char :=
  [' '].intercalate (words cs)

-- ============================================================= lines

/-- A line without the carriage return at its end. -/
def dropReturn (line : List Char) : List Char :=
  match line.getLast? with
  | some '\r' => line.dropLast
  | _ => line

/-- The lines of a text. A line feed, or a carriage return and a line feed, ends a line; the
last line may lack it, and a text that ends in a line feed has no empty line after it. -/
def lines (cs : List Char) : List (List Char) :=
  let pieces := cs.splitOn '\n'
  match pieces.getLast? with
  | some [] => pieces.dropLast.map dropReturn
  | some last => pieces.dropLast.map dropReturn ++ [last]
  | none => []

-- ============================================================== cuts

/-- The text before and after the first `c`. -/
def cutFirst (c : Char) : List Char → Option (List Char × List Char)
  | [] => none
  | d :: ds =>
    if d = c then some ([], ds)
    else (cutFirst c ds).map fun (before, after) => (d :: before, after)

/-- What stands before and after the last `c`. -/
def cutLast {α : Type} [DecidableEq α] (c : α) : List α → Option (List α × List α)
  | [] => none
  | d :: ds =>
    match cutLast c ds with
    | some (before, after) => some (d :: before, after)
    | none => if d = c then some ([], ds) else none

/-- What follows `lead` in a text that starts with it. -/
def afterLead : List Char → List Char → Option (List Char)
  | [], rest => some rest
  | _ :: _, [] => none
  | l :: lead, c :: cs => if l = c then afterLead lead cs else none

end ContractDocs.Text
