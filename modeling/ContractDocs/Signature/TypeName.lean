/-
The canonical spelling of a type. Blanks next to a symbol are dropped,
blanks between two words close up to one space, and mappings get their
usual spacing: `mapping(address=>uint256)` is written
`mapping (address => uint256)`.

The spelling is reached in small passes, each a function on the characters
of its own. A gap is closed together with the word characters around it,
so a one-letter word that closes one gap cannot open the next: in `a b  c`
the second gap keeps the last blank it was written with.
-/
import ContractDocs.Text.Words

namespace ContractDocs.TypeName

open Text

-- ============================================== blanks next to symbols

/-- Drops the blanks before a symbol; of the blanks before a word only the last one stays. -/
def tightenBefore : List Char → List Char
  | [] => []
  | [c] => [c]
  | c :: d :: rest =>
    if isBlank c && !isWord d then tightenBefore (d :: rest)
    else c :: tightenBefore (d :: rest)

/-- Drops the blanks after a character that is no word character; `open_` says that the
character just written was one. -/
def tightenAfter (open_ : Bool) : List Char → List Char
  | [] => []
  | c :: rest =>
    if open_ && isBlank c then tightenAfter true rest
    else c :: tightenAfter (!isWord c) rest

-- ================================================= gaps between words

/-- Writes each gap between two words as one space. Gaps are taken from the left, each with
the word characters on its two sides, and no character belongs to two of them. -/
def closeGaps : List Char → List Char
  | [] => []
  | c :: rest =>
    if isWord c && rest.head?.any isBlank then
      match _h : trimStart rest with
      | [] => c :: closeGaps rest
      | d :: after =>
        if isWord d then c :: ' ' :: d :: closeGaps after
        else c :: closeGaps rest
    else c :: closeGaps rest
termination_by text => text.length
decreasing_by
  all_goals have := length_trimStart_le rest
  all_goals simp_all
  all_goals omega

-- ========================================================== mappings

/-- Puts a space before a parenthesis that follows the letters `mapping`; `before` is the text
already passed, latest character first. -/
def spaceMappings (before : List Char) : List Char → List Char
  | [] => []
  | c :: rest =>
    if c = '(' && ['g', 'n', 'i', 'p', 'p', 'a', 'm'].isPrefixOf before then
      ' ' :: c :: spaceMappings (c :: before) rest
    else c :: spaceMappings (c :: before) rest

/-- Puts a space on both sides of every arrow. -/
def spaceArrows : List Char → List Char
  | '=' :: '>' :: rest => ' ' :: '=' :: '>' :: ' ' :: spaceArrows rest
  | c :: rest => c :: spaceArrows rest
  | [] => []

-- ================================================= canonical spelling

/-- The canonical spelling, on characters. -/
def canonicalChars (text : List Char) : List Char :=
  spaceArrows (spaceMappings []
    (closeGaps (tightenAfter false (tightenBefore (trim text)))))

/-- The canonical spelling of a type. -/
def canonical (text : String) : String :=
  String.ofList (canonicalChars text.toList)

end ContractDocs.TypeName
