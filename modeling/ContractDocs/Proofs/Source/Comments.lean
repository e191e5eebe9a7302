/-
Both styles of documentation comments give the same text. Lines written one
by one behind three slashes, and lines written behind stars in one block, are
both documented by the lines themselves: trimmed, joined, and without the
blank ones at the two ends (`Core`). Comments of neither style say nothing,
wherever they stand.

Trimming a text and leaving out the blank lines at its ends are the same
operation, `dropWhile` and then `rdropWhile`, with other elements to drop. It
does not see what is droppable at the end (`rdropWhile_dropWhile_append`), so
the delimiters of a block, which add a blank line at each end, change
nothing. A star counts as a marker only at the start of a line, and the blank
behind it protects whatever the line itself starts with
(`blockLine_starred`).
-/
import ContractDocs.Proofs.Text.Cuts
import ContractDocs.Source.Comments
import Mathlib.Data.List.DropRight

namespace ContractDocs

open Text

-- ======================================================== dropping ends

section Ends

variable {α : Type} {p : α → Bool}

/-- What may be dropped makes no difference at the end. -/
theorem rdropWhile_dropWhile_append {xs tail : List α} (htail : ∀ x ∈ tail, p x = true) :
    ((xs ++ tail).dropWhile p).rdropWhile p = (xs.dropWhile p).rdropWhile p := by
  have hend : ∀ ys : List α, (ys ++ tail).rdropWhile p = ys.rdropWhile p := by
    intro ys
    rw [List.rdropWhile, List.reverse_append,
      List.dropWhile_append_of_pos (by simpa using htail)]
    rfl
  rw [List.dropWhile_append]
  split
  · next h => rw [List.dropWhile_eq_nil_iff.2 htail, List.isEmpty_iff.1 h]
  · exact hend _

theorem head?_rdropWhile_dropWhile (xs : List α) :
    ∀ x ∈ ((xs.dropWhile p).rdropWhile p).head?, p x = false := by
  intro x hx
  obtain ⟨rest, hrest⟩ := List.rdropWhile_prefix p (xs.dropWhile p)
  have hhead : (xs.dropWhile p).head? = some x := by
    rw [← hrest, List.head?_append_of_ne_nil]
    · exact hx
    · rintro hnil
      rw [hnil] at hx
      cases hx
  have hnot := List.head?_dropWhile_not p xs
  rw [hhead] at hnot
  exact hnot

theorem getLast?_rdropWhile (xs : List α) :
    ∀ x ∈ (xs.rdropWhile p).getLast?, p x = false := by
  intro x hx
  have hne : xs.rdropWhile p ≠ [] := by
    rintro hnil
    rw [hnil] at hx
    cases hx
  have hlast := List.rdropWhile_last_not p xs hne
  rw [List.getLast?_eq_some_getLast hne] at hx
  cases hx
  exact Bool.eq_false_iff.2 hlast

end Ends

-- ============================================================ trimming

namespace Text

/-- Blanks at the end of a text are trimmed away. -/
theorem trim_append_blanks {b : List Char} (hb : isBlankText b = true) (x : List Char) :
    trim (x ++ b) = trim x :=
  rdropWhile_dropWhile_append (List.all_eq_true.1 hb)

theorem trim_cons_blank {b : Char} (hb : isBlank b = true) (x : List Char) :
    trim (b :: x) = trim x := by
  rw [trim, trimStart, List.dropWhile_cons_of_pos hb]
  rfl

theorem trim_trimEnd (x : List Char) : trim (trimEnd x) = trim x := by
  obtain ⟨b, hb, hx⟩ := trimEnd_cut x
  conv_rhs => rw [hx, trim_append_blanks hb]

/-- A carriage return is trimmed away with the blanks. -/
theorem trim_dropReturn (x : List Char) : trim (dropReturn x) = trim x := by
  unfold dropReturn
  split
  · next h =>
      obtain ⟨y, rfl⟩ := List.getLast?_eq_some_iff.1 h
      rw [List.dropLast_concat, trim_append_blanks (by decide)]
  · rfl

end Text

-- ============================================================ one line

namespace Comments

theorem blockLine_dropReturn (line : List Char) :
    blockLine (dropReturn line) = blockLine line := by
  rw [blockLine, blockLine, trim_dropReturn]

/-- Of a line behind a star and a blank only the line itself is left. -/
theorem blockLine_starred (line : List Char) :
    blockLine (' ' :: '*' :: ' ' :: line) = trim line := by
  obtain ⟨b, hb, hline⟩ := trimEnd_cut line
  have hstar : trim (' ' :: '*' :: ' ' :: line) = trimEnd ('*' :: ' ' :: trimEnd line) := by
    rw [hline, show ' ' :: '*' :: ' ' :: (trimEnd line ++ b)
      = ' ' :: '*' :: ' ' :: trimEnd line ++ b from rfl, trim_append_blanks hb,
      trim_cons_blank isBlank_space, trim, trimStart_cons_of_not_blank (by decide), ← hline]
  rw [blockLine, hstar, ← trim_trimEnd line]
  rcases List.eq_nil_or_concat (trimEnd line) with hnil | ⟨rest, c, hrest⟩
  · rw [hnil]
    decide +kernel
  · -- the last character is no blank, so nothing behind the star goes
    have hc : isBlank c = false := by
      refine getLast?_rdropWhile line c ?_
      show (trimEnd line).getLast? = some c
      rw [hrest, List.concat_eq_append, List.getLast?_concat]
    rw [hrest, List.concat_eq_append,
      show '*' :: ' ' :: (rest ++ [c]) = '*' :: ' ' :: rest ++ [c] from rfl,
      trimEnd_concat hc]
    exact trim_cons_blank isBlank_space _

/-- A line comment contributes its line. -/
theorem docLines_slashes (line : List Char) :
    docLines ('/' :: '/' :: '/' :: ' ' :: line) = [trim line] := by
  have hdoc : isDocLine ('/' :: '/' :: '/' :: ' ' :: line) = true := by
    simp [isDocLine]
  rw [docLines, if_pos hdoc]
  simp [trim_cons_blank isBlank_space]

-- =========================================================== one block

/-- The block comment that holds some lines, each behind a star. -/
def block (lines : List String) : String :=
  "/**\n" ++ String.join (lines.map fun line => " * " ++ line ++ "\n") ++ " */"

/-- What stands between the delimiters of a block, line by line. -/
def blockRows (lines : List (List Char)) : List (List Char) :=
  [] :: lines.map (' ' :: '*' :: ' ' :: ·) ++ [[' ']]

theorem intercalate_blockRows (lines : List (List Char)) :
    ['\n'].intercalate (blockRows lines)
      = '\n' :: lines.flatMap (fun line => ' ' :: '*' :: ' ' :: line ++ ['\n']) ++ [' '] := by
  have hrows : ['\n'].intercalate (lines.map (' ' :: '*' :: ' ' :: ·) ++ [[' ']])
      = lines.flatMap (fun line => ' ' :: '*' :: ' ' :: line ++ ['\n']) ++ [' '] := by
    induction lines with
    | nil => rfl
    | cons line lines ih =>
        rw [List.map_cons, List.cons_append, List.intercalate_cons_of_ne_nil (by simp), ih,
          List.flatMap_cons]
        simp only [List.append_assoc]
  rw [blockRows, List.cons_append, List.intercalate_cons_of_ne_nil (by simp), hrows]
  rfl

theorem toList_block (lines : List String) :
    (block lines).toList
      = ['/', '*', '*'] ++ (['\n'].intercalate (blockRows (lines.map String.toList))
        ++ ['*', '/']) := by
  rw [intercalate_blockRows, block]
  simp [String.toList_join, List.flatMap_map, String.toList_append]

/-- The lines between the delimiters of a block are those it was made of, and
a blank one at each end. -/
theorem lines_blockRows {lines : List (List Char)} (h : ∀ line ∈ lines, '\n' ∉ line) :
    (Text.lines (['\n'].intercalate (blockRows lines))).map blockLine
      = [] :: lines.map trim ++ [[]] := by
  have hsplit : (['\n'].intercalate (blockRows lines)).splitOn '\n' = blockRows lines := by
    refine List.splitOn_intercalate '\n' (fun row hrow => ?_) (by simp [blockRows])
    simp only [blockRows, List.cons_append, List.mem_cons, List.mem_append, List.mem_map] at hrow
    rcases hrow with rfl | ⟨line, hline, rfl⟩ | rfl | hrow
    · simp
    · simpa using h line hline
    · simp
    · cases hrow
  have hlast : (blockRows lines).getLast? = some [' '] := by
    rw [blockRows, List.getLast?_concat]
  have hends : blockLine [] = [] ∧ blockLine [' '] = [] := by decide +kernel
  simp only [Text.lines, hsplit, hlast]
  rw [blockRows, List.dropLast_concat, List.map_append, List.map_map]
  simp [Function.comp_def, blockLine_dropReturn, blockLine_starred, hends]

theorem docLines_block {lines : List String} (h : ∀ line ∈ lines, '\n' ∉ line.toList) :
    docLines (block lines).toList
      = [] :: lines.map (fun line => trim line.toList) ++ [[]] := by
  have hlines : ∀ line ∈ lines.map String.toList, '\n' ∉ line := by simpa using h
  rw [toList_block]
  generalize hinner : ['\n'].intercalate (blockRows (lines.map String.toList)) = inner
  have hdoc : isDocLine (['/', '*', '*'] ++ (inner ++ ['*', '/'])) = false := rfl
  have hblock : isDocBlock (['/', '*', '*'] ++ (inner ++ ['*', '/'])) = true := by
    have hends : ['*', '/'] <:+ '/' :: '*' :: '*' :: (inner ++ ['*', '/']) :=
      (List.suffix_append inner _).trans (List.suffix_append ['/', '*', '*'] _)
    simp [isDocBlock, hends]
  have hcut : ((['/', '*', '*'] ++ (inner ++ ['*', '/'])).drop 3).take
      ((['/', '*', '*'] ++ (inner ++ ['*', '/'])).length - 5) = inner := by
    simp
  rw [docLines, hdoc, hblock, if_neg Bool.false_ne_true, if_pos rfl, hcut, ← hinner,
    lines_blockRows hlines, List.map_map]
  rfl

-- ======================================================= whole comments

/-- What is left of some lines without the blank ones at the two ends. -/
structure Core (lines core : List String) : Prop where
  cut : ∃ lead trail, lines = lead ++ core ++ trail ∧ ∀ line ∈ lead ++ trail, line = ""
  head : core.head? ≠ some ""
  last : core.getLast? ≠ some ""

theorem core_dropBlankEnds (lines : List (List Char)) :
    Core (lines.map String.ofList) ((dropBlankEnds lines).map String.ofList) := by
  have hne : ∀ core : Option (List Char), (∀ line ∈ core, line.isEmpty = false) →
      core.map String.ofList ≠ some "" := by
    rintro (_ | line) h heq
    · cases heq
    · have hnil : line = [] := by simpa using heq
      have hline := h line rfl
      rw [hnil] at hline
      cases hline
  have hmiddle : lines.dropWhile (·.isEmpty)
      = dropBlankEnds lines ++ (lines.dropWhile (·.isEmpty)).rtakeWhile (·.isEmpty) :=
    List.rdropWhile_append_rtakeWhile.symm
  refine ⟨⟨(lines.takeWhile (·.isEmpty)).map String.ofList,
    ((lines.dropWhile (·.isEmpty)).rtakeWhile (·.isEmpty)).map String.ofList, ?_, ?_⟩, ?_, ?_⟩
  · rw [← List.map_append, ← List.map_append, List.append_assoc, ← hmiddle,
      List.takeWhile_append_dropWhile]
  · intro line hline
    rw [← List.map_append] at hline
    obtain ⟨chars, hchars, rfl⟩ := List.mem_map.1 hline
    have hempty : chars.isEmpty = true := by
      rcases List.mem_append.1 hchars with hlead | htrail
      · exact List.mem_takeWhile_imp hlead
      · exact List.mem_rtakeWhile_imp htrail
    rw [List.isEmpty_iff.1 hempty]
  · rw [List.head?_map]
    exact hne _ (head?_rdropWhile_dropWhile lines)
  · rw [List.getLast?_map]
    exact hne _ (getLast?_rdropWhile _)

/-- A comment that documents nothing: it starts like neither style. -/
def Plain (comment : String) : Prop :=
  ¬ "///".toList <+: comment.toList ∧ ¬ "/**".toList <+: comment.toList

instance (comment : String) : Decidable (Plain comment) :=
  inferInstanceAs (Decidable (_ ∧ _))

/-- Comments with plain ones put in anywhere. -/
inductive Padded : List String → List String → Prop where
  | nil : Padded [] []
  | keep (comment : String) {comments padded : List String} :
      Padded comments padded → Padded (comment :: comments) (comment :: padded)
  | plain {comment : String} {comments padded : List String} :
      Plain comment → Padded comments padded → Padded comments (comment :: padded)

theorem Plain.docLines {comment : String} (h : Plain comment) :
    docLines comment.toList = [] := by
  have hline : isDocLine comment.toList = false :=
    Bool.eq_false_iff.2 fun hdoc => h.1 (List.isPrefixOf_iff_prefix.1 hdoc)
  have hblock : isDocBlock comment.toList = false := by
    refine Bool.eq_false_iff.2 fun hdoc => h.2 (List.isPrefixOf_iff_prefix.1 ?_)
    rw [isDocBlock, Bool.and_eq_true, Bool.and_eq_true] at hdoc
    exact hdoc.1.1
  rw [Comments.docLines, hline, hblock]
  rfl

theorem Padded.flatMap_docLines {comments padded : List String} (h : Padded comments padded) :
    padded.flatMap (fun comment => docLines comment.toList)
      = comments.flatMap fun comment => docLines comment.toList := by
  induction h with
  | nil => rfl
  | keep comment _ ih => rw [List.flatMap_cons, List.flatMap_cons, ih]
  | plain hplain _ ih => rw [List.flatMap_cons, hplain.docLines, List.nil_append, ih]

theorem documentation_eq (comments : List String) :
    documentation comments
      = "\n".intercalate ((dropBlankEnds
        (comments.flatMap fun comment => docLines comment.toList)).map String.ofList) := by
  rw [documentation, documentationChars, List.flatMap_map, ← String.toList_inj,
    String.toList_ofList, String.toList_intercalate, List.map_map]
  simp

/-- Both styles of documentation comments give the same text: the trimmed
lines, joined, without the blank ones at the two ends; and plain comments
among others change nothing. -/
theorem doc_styles_agree (lines : List String) (h : ∀ line ∈ lines, '\n' ∉ line.toList) :
    (∃ core, Core (lines.map trimmed) core
      ∧ documentation (lines.map ("/// " ++ ·)) = "\n".intercalate core
      ∧ documentation [block lines] = "\n".intercalate core)
    ∧ ∀ comments padded, Padded comments padded →
      documentation padded = documentation comments := by
  constructor
  · have hcore := core_dropBlankEnds (lines.map fun line => trim line.toList)
    rw [List.map_map] at hcore
    refine ⟨_, hcore, ?_, ?_⟩
    · have hslashes : (lines.map ("/// " ++ ·)).flatMap (fun comment => docLines comment.toList)
          = lines.map fun line => trim line.toList := by
        rw [List.flatMap_map, List.map_eq_flatMap]
        refine congrArg (List.flatMap · lines) (funext fun line => ?_)
        rw [String.toList_append]
        exact docLines_slashes line.toList
      rw [documentation_eq, hslashes]
    · have hends : dropBlankEnds ([] :: lines.map (fun line => trim line.toList) ++ [[]])
          = dropBlankEnds (lines.map fun line => trim line.toList) :=
        rdropWhile_dropWhile_append (by simp)
      rw [documentation_eq, List.flatMap_singleton, docLines_block h, hends]
  · intro comments padded hpadded
    rw [documentation_eq, documentation_eq, hpadded.flatMap_docLines]

/-- Lines that begin like the markers of a comment, among blank ones. -/
def markedLines : List String :=
  ["", "\t*star ", "\u2003", " /slash\r", "\u00a0"]

/-- The marks and the blank line between them stay, whatever plain comments
stand around. -/
theorem markedLines_documented :
    (∀ line ∈ markedLines, '\n' ∉ line.toList)
      ∧ block markedLines
        = "/**\n * \n * \t*star \n * \u2003\n *  /slash\r\n * \u00a0\n */"
      ∧ documentation [block markedLines] = "*star\n\n/slash"
      ∧ documentation (markedLines.map ("/// " ++ ·)) = "*star\n\n/slash"
      ∧ documentation ["/// a", "// b", "/* c */", "/** d */"] = "a\nd" := by
  have h : ∀ line ∈ markedLines, '\n' ∉ line.toList := by decide
  obtain ⟨⟨core, -, hlines, hblock⟩, hpadded⟩ := doc_styles_agree markedLines h
  have htext : documentation (markedLines.map ("/// " ++ ·)) = "*star\n\n/slash" := by
    decide +kernel
  refine ⟨h, by decide +kernel, ?_, htext, ?_⟩
  · rw [hblock, ← hlines, htext]
  · rw [hpadded ["/// a", "/** d */"] _
      (.keep _ (.plain (by decide) (.plain (by decide) (.keep _ .nil))))]
    decide +kernel

end Comments

end ContractDocs
