import RecordTyping.Files.Path
import Mathlib.Data.List.Basic

/-!
# The last part of a path

A path that was joined from a directory and a name ends with that name, whatever the directory looks
like, if the name is one that a file can have.
-/

namespace RecordTyping.Files.Path

variable {name : String}

/-- A text without a slash is one part. -/
theorem split_unbroken {s : List Char} (unbroken : '/' ∉ s) : split s = [s] := by
  induction s with
  | nil => rfl
  | cons c s ih =>
    rw [List.mem_cons, not_or] at unbroken
    rw [split, if_neg (Ne.symm unbroken.1), ih unbroken.2]

/-- There is always a part. -/
theorem split_ne_nil (s : List Char) : split s ≠ [] := by
  cases s with
  | nil => simp [split]
  | cons c s =>
    rw [split]
    split
    · simp
    · split <;> simp

/-- A slash ends a part. -/
theorem split_append (s rest : List Char) : split (s ++ '/' :: rest) = split s ++ split rest := by
  induction s with
  | nil => simp [split]
  | cons c s ih =>
    obtain ⟨part, parts, first⟩ := List.exists_cons_of_ne_nil (split_ne_nil s)
    rw [List.cons_append, split, split, ih]
    by_cases slash : c = '/'
    · rw [if_pos slash, if_pos slash, List.cons_append]
    · rw [if_neg slash, if_neg slash, first]
      rfl

namespace IsName

/-- A name is the only part of itself. -/
theorem parts_self (isName : IsName name) : parts ⟨name⟩ = [name] := by
  have kept : name.toList.isEmpty = false := List.isEmpty_eq_false_iff.2 isName.filled
  rw [parts, split_unbroken isName.unbroken]
  simp [kept]

/-- A name after a slash is the last part. -/
theorem parts_after (isName : IsName name) (text : String) :
    parts ⟨text ++ "/" ++ name⟩ = parts ⟨text⟩ ++ [name] := by
  have whole : (text ++ "/" ++ name).toList = text.toList ++ '/' :: name.toList := by simp
  have alone := isName.parts_self
  unfold parts at alone ⊢
  rw [whole, split_append, List.filter_append, List.map_append, alone]

/-- A name does not start at the root. -/
theorem relative (isName : IsName name) : isAbsolute ⟨name⟩ = false := by
  have other : name.toList.head? ≠ some '/' :=
    fun first => isName.unbroken (List.mem_of_head? first)
  simpa [isAbsolute] using other

/-- A name in a directory is the name, or the name after a slash. -/
theorem join_cases (isName : IsName name) (directory : Path) : directory.join name = ⟨name⟩ ∨
    ∃ text, directory.join name = ⟨text ++ "/" ++ name⟩ := by
  unfold join
  rw [isName.relative, Bool.false_or]
  by_cases empty : directory.text.isEmpty = true
  · exact Or.inl (if_pos empty)
  · rw [if_neg empty]
    by_cases slash : directory.text.toList.getLast? = some '/'
    · -- the slash is taken from the end of the directory
      obtain ⟨front, text⟩ := List.getLast?_eq_some_iff.1 slash
      refine Or.inr ⟨String.ofList front, ?_⟩
      rw [if_pos slash]
      refine congrArg Path.mk (String.toList_inj.1 ?_)
      simp [text]
    · exact Or.inr ⟨directory.text, if_neg slash⟩

/-- The last part of a name in a directory is the name. -/
theorem join_getLast? (isName : IsName name) (directory : Path) :
    (directory.join name).parts.getLast? = some name := by
  rcases isName.join_cases directory with alone | ⟨text, after⟩
  · rw [alone, isName.parts_self]
    rfl
  · rw [after, isName.parts_after, List.getLast?_concat]

/-- A path that ends with a name ends without a slash. -/
theorem join_namesDirectory (isName : IsName name) (directory : Path) :
    (directory.join name).namesDirectory = false := by
  have unslashed : name.toList.getLast? ≠ some '/' :=
    fun slash => isName.unbroken (List.mem_of_getLast? slash)
  rcases isName.join_cases directory with alone | ⟨text, after⟩
  · rw [alone]
    simpa [namesDirectory] using unslashed
  · have ends : (text ++ "/" ++ name).toList.getLast? = name.toList.getLast? := by
      rw [String.toList_append, List.getLast?_append_of_ne_nil _ isName.filled]
    rw [after, namesDirectory, ends]
    simpa using unslashed

end IsName

end RecordTyping.Files.Path
