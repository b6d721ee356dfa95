import Mathlib.Data.List.Basic
import Mathlib.Data.List.TakeWhile
import RecordTyping.Declaration.Rbi

/-!
# Comments at the top of an interface file

The comments of a file stand between the line that asks for the strictest checks and the first
class. Each comment is marked once, where it begins, so that a comment of several lines is marked
on its first line only. Deleting the marked lines at the top therefore leaves the declarations alone
exactly when every further line of every comment brings a mark of its own, and otherwise leaves the
lines from the first that brings none in front of the declarations.
-/

namespace RecordTyping

/-- Whether a line is marked as a comment. -/
def isMarked (line : List Char) : Bool := line.head? == some '#'

/-- Lines, each with the line feed that ends it. -/
def unlines (lines : List (List Char)) : List Char := lines.flatMap (· ++ ['\n'])

/-- A text without the marked lines at its top. -/
def withoutHeader (s : List Char) : List Char :=
  ['\n'].intercalate ((s.splitOn '\n').dropWhile isMarked)

/-- The lines that a comment is written on. -/
def commentLines (comment : String) : List (List Char) := ("# " ++ comment).toList.splitOn '\n'

/-- Whether every line of every comment that is not its first is marked. -/
def DeclarationFile.CommentsMarked (f : DeclarationFile) : Prop :=
  ∀ comment ∈ f.comments, ∀ line ∈ (comment.toList.splitOn '\n').tail, isMarked line = true

section Lines

variable {lines : List (List Char)} {line rest : List Char}

/-- Ending lines and putting line feeds between them differ in the line feed of the last line. -/
theorem unlines_eq_intercalate (some : lines ≠ []) :
    unlines lines = ['\n'].intercalate lines ++ ['\n'] := by
  induction lines with
  | nil => exact absurd rfl some
  | cons line lines ih =>
    cases lines with
    | nil => simp [unlines]
    | cons next lines =>
      have later : unlines (next :: lines) = _ := ih (List.cons_ne_nil _ _)
      rw [List.intercalate_cons_cons, unlines, List.flatMap_cons]
      change line ++ ['\n'] ++ unlines (next :: lines) = _
      rw [later]
      simp only [List.append_assoc]

/-- The lines of a text, each ended, are the text with a line feed at its end. -/
theorem unlines_splitOn (s : List Char) : unlines (s.splitOn '\n') = s ++ ['\n'] := by
  rw [unlines_eq_intercalate (List.splitOn_ne_nil _ _), List.intercalate_splitOn]

/-- No line of a text holds a line feed. -/
theorem not_mem_of_mem_splitOn (s : List Char) : ∀ line ∈ s.splitOn '\n', '\n' ∉ line := by
  induction s with
  | nil => simp
  | cons c s ih =>
    rw [List.splitOn_cons_eq_if_modifyHead]
    obtain ⟨first, others, split⟩ := List.exists_cons_of_ne_nil (List.splitOn_ne_nil '\n' s)
    rw [split] at ih ⊢
    by_cases feed : c = '\n'
    · simpa [feed] using ih
    · simpa [feed, Ne.symm feed] using ih

/-- A marked line at the top is deleted, and at any other line the deletion ends. -/
theorem withoutHeader_line (unbroken : '\n' ∉ line) : withoutHeader (line ++ '\n' :: rest) =
    if isMarked line then withoutHeader rest else line ++ '\n' :: rest := by
  have split : (line ++ '\n' :: rest).splitOn '\n' = line :: rest.splitOn '\n' :=
    List.splitOn_append_cons_self_of_not_mem unbroken rest
  by_cases marked : isMarked line = true
  · rw [withoutHeader, split, List.dropWhile_cons_of_pos marked, if_pos marked, withoutHeader]
  · rw [withoutHeader, split, List.dropWhile_cons_of_neg marked, if_neg marked, ← split,
      List.intercalate_splitOn]

/-- Of lines above a text without a header those from the first unmarked one on remain. -/
theorem withoutHeader_unlines (unbroken : ∀ line ∈ lines, '\n' ∉ line)
    (bare : withoutHeader rest = rest) :
    withoutHeader (unlines lines ++ rest) = unlines (lines.dropWhile isMarked) ++ rest := by
  induction lines with
  | nil => exact bare
  | cons line lines ih =>
    have first : '\n' ∉ line := unbroken line List.mem_cons_self
    have later := ih fun other member => unbroken other (List.mem_cons_of_mem _ member)
    have layout : unlines (line :: lines) ++ rest = line ++ '\n' :: (unlines lines ++ rest) := by
      simp [unlines]
    rw [layout, withoutHeader_line first]
    by_cases marked : isMarked line = true
    · rw [if_pos marked, later, List.dropWhile_cons_of_pos marked]
    · rw [if_neg marked, List.dropWhile_cons_of_neg marked, layout]

/-- There is no line where no text is. -/
theorem unlines_eq_nil : unlines lines = [] ↔ lines = [] := by
  cases lines <;> simp [unlines]

end Lines

/-- The first line of a comment is marked, and the others are its further lines as they are. -/
theorem commentLines_marked (comment : String) :
    (∀ line ∈ commentLines comment, isMarked line = true) ↔
      ∀ line ∈ (comment.toList.splitOn '\n').tail, isMarked line = true := by
  obtain ⟨first, others, split⟩ :=
    List.exists_cons_of_ne_nil (List.splitOn_ne_nil '\n' comment.toList)
  have marked : commentLines comment = ('#' :: ' ' :: first) :: others := by
    simp [commentLines, List.splitOn_cons_eq_if_modifyHead, split]
  rw [marked, split]
  simp [isMarked]

namespace DeclarationFile

variable (f : DeclarationFile)

/-- The comments are written line by line between the first line and the classes. -/
theorem rbi_lines : f.rbi.toList = "# typed: strong\n".toList ++
    unlines (f.comments.flatMap commentLines) ++ f.rbiClasses.toList := by
  have each (comment : String) : (commentLine comment).toList = unlines (commentLines comment) := by
    rw [commentLines, unlines_splitOn, commentLine, String.toList_append]
    rfl
  have all : (f.comments.map commentLine).flatMap String.toList =
      unlines (f.comments.flatMap commentLines) := by
    rw [List.flatMap_map, unlines, List.flatMap_assoc]
    exact List.flatMap_congr fun comment _ => each comment
  have layout : f.rbi =
      "# typed: strong\n" ++ String.join (f.comments.map commentLine) ++ f.rbiClasses := rfl
  rw [layout, String.toList_append, String.toList_append, String.toList_join, all]

/-- The classes start with an empty line, so that no header is deleted from them. -/
theorem withoutHeader_rbiClasses :
    withoutHeader f.rbiClasses.toList = f.rbiClasses.toList := by
  rw [rbiClasses, String.toList_join]
  cases f.classes with
  | nil => rfl
  | cons c classes =>
    have empty : '\n' ∉ ([] : List Char) := List.not_mem_nil
    simpa [isMarked] using withoutHeader_line empty

/-- What deleting the header leaves: the lines of the comments from the first unmarked one on, and
then the classes. -/
theorem withoutHeader_rbi : withoutHeader f.rbi.toList =
    unlines ((f.comments.flatMap commentLines).dropWhile isMarked) ++ f.rbiClasses.toList := by
  have unbroken : ∀ line ∈ f.comments.flatMap commentLines, '\n' ∉ line := by
    intro line member
    obtain ⟨comment, -, inside⟩ := List.mem_flatMap.1 member
    exact not_mem_of_mem_splitOn _ line inside
  have strict : '\n' ∉ "# typed: strong".toList := by decide
  have marked : isMarked "# typed: strong".toList = true := by decide
  have top : f.rbi.toList = "# typed: strong".toList ++
      '\n' :: (unlines (f.comments.flatMap commentLines) ++ f.rbiClasses.toList) := by
    rw [rbi_lines]
    rfl
  rw [top, withoutHeader_line strict, if_pos marked,
    withoutHeader_unlines unbroken f.withoutHeader_rbiClasses]

/-- All lines of the comments are marked exactly when their further lines are. -/
theorem commentsMarked_iff :
    (∀ line ∈ f.comments.flatMap commentLines, isMarked line = true) ↔ f.CommentsMarked := by
  simp only [CommentsMarked, ← commentLines_marked, List.mem_flatMap]
  constructor
  · intro all comment member line inside
    exact all line ⟨comment, member, inside⟩
  · rintro all line ⟨comment, member, inside⟩
    exact all comment member line inside

/-- Exactly the classes remain when the header is deleted if and only if the comments are marked on
every line. -/
theorem withoutHeader_rbi_eq_iff :
    withoutHeader f.rbi.toList = f.rbiClasses.toList ↔ f.CommentsMarked := by
  rw [withoutHeader_rbi, List.append_left_eq_self, unlines_eq_nil, List.dropWhile_eq_nil_iff,
    commentsMarked_iff]

/-- The text is the first line, marked lines and the classes exactly when the comments are marked on
every line: the classes start with no marked line, so that there is only one such header. -/
theorem header_iff :
    (∃ header, (∀ line ∈ header, isMarked line = true ∧ '\n' ∉ line) ∧
        f.rbi.toList = "# typed: strong\n".toList ++ unlines header ++ f.rbiClasses.toList) ↔
      f.CommentsMarked := by
  constructor
  · rintro ⟨header, marked, layout⟩
    have strict : '\n' ∉ "# typed: strong".toList := by decide
    have first : isMarked "# typed: strong".toList = true := by decide
    have top : f.rbi.toList =
        "# typed: strong".toList ++ '\n' :: (unlines header ++ f.rbiClasses.toList) := layout
    have gone : header.dropWhile isMarked = [] :=
      List.dropWhile_eq_nil_iff.2 fun line member => (marked line member).1
    rw [← withoutHeader_rbi_eq_iff, top, withoutHeader_line strict, if_pos first,
      withoutHeader_unlines (fun line member => (marked line member).2) f.withoutHeader_rbiClasses,
      gone]
    rfl
  · intro marked
    refine ⟨f.comments.flatMap commentLines, fun line member => ⟨?_, ?_⟩, f.rbi_lines⟩
    · exact f.commentsMarked_iff.2 marked line member
    · obtain ⟨comment, -, inside⟩ := List.mem_flatMap.1 member
      exact not_mem_of_mem_splitOn _ line inside

/-- The comments of a file leave its declarations alone exactly when they are marked on every line.
Then the text is the first line, marked lines, and the text that the classes have without any
comments; and deleting the marked lines at the top gives the same as without any comments. For any
comments the deletion leaves what follows their first unmarked line, that line included, in front of
the classes. -/
theorem comments_isolated_iff :
    { f with comments := [] }.rbi = "# typed: strong\n" ++ f.rbiClasses ∧
      ((∃ header, (∀ line ∈ header, isMarked line = true ∧ '\n' ∉ line) ∧
          f.rbi.toList =
            "# typed: strong\n".toList ++ unlines header ++ f.rbiClasses.toList) ↔
        f.CommentsMarked) ∧
      (withoutHeader f.rbi.toList = withoutHeader { f with comments := [] }.rbi.toList ↔
        f.CommentsMarked) ∧
      withoutHeader f.rbi.toList =
        unlines ((f.comments.flatMap commentLines).dropWhile isMarked) ++
          f.rbiClasses.toList := by
  have bare : withoutHeader { f with comments := [] }.rbi.toList = f.rbiClasses.toList := by
    have none : { f with comments := [] }.CommentsMarked :=
      fun comment member => absurd member List.not_mem_nil
    exact (withoutHeader_rbi_eq_iff { f with comments := [] }).2 none
  refine ⟨?_, f.header_iff, ?_, f.withoutHeader_rbi⟩
  · have layout : { f with comments := [] }.rbi = "# typed: strong\n" ++ "" ++ f.rbiClasses := rfl
    rw [layout, String.append_empty]
  · rw [bare, withoutHeader_rbi_eq_iff]

end DeclarationFile

/-- A file with a comment of two lines. -/
def twoLineFile : DeclarationFile where
  group := .base
  comments := ["Generated.\nclass Leaked; end"]
  classes := [ClassSignatures.declaration ⟨.baseRecord, []⟩]

/-- The second line of a comment stands among the declarations. -/
theorem twoLineFile_leaks :
    twoLineFile.rbi =
        "# typed: strong\n# Generated.\nclass Leaked; end\n\nclass ActiveRecord::Base\nend\n" ∧
      withoutHeader twoLineFile.rbi.toList =
        "class Leaked; end\n\nclass ActiveRecord::Base\nend\n".toList ∧
      withoutHeader { twoLineFile with comments := [] }.rbi.toList =
        "\nclass ActiveRecord::Base\nend\n".toList ∧
      ¬∃ header, (∀ line ∈ header, isMarked line = true ∧ '\n' ∉ line) ∧
        twoLineFile.rbi.toList =
          "# typed: strong\n".toList ++ unlines header ++ twoLineFile.rbiClasses.toList := by
  have unmarked : ¬twoLineFile.CommentsMarked := by
    intro marked
    have second := marked _ List.mem_cons_self "class Leaked; end".toList (by decide)
    exact absurd second (by decide)
  refine ⟨by rfl, by decide, by decide, ?_⟩
  rw [DeclarationFile.header_iff]
  exact unmarked

end RecordTyping
