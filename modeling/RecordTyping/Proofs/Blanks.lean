import Mathlib.Data.List.TakeWhile
import RecordTyping.Text.Blank

/-!
# Taking blanks off

What is left of a text without the blanks at one end or at both, by what the text is made of: blanks
that are put around it are taken off again, and a text without blanks at its ends is left as it is.
So taking blanks off finds the one text without blanks at its ends that blanks were put around.
-/

namespace RecordTyping.Text

variable {before middle after s rest : List Char} {p : Char → Bool}

/-- A run of characters ends where a text goes on with another character, or not at all. -/
theorem takeWhile_run (run : ∀ c ∈ s, p c = true) (ends : ∀ c ∈ rest.head?, p c = false) :
    (s ++ rest).takeWhile p = s := by
  rw [List.takeWhile_append_of_pos run]
  cases rest with
  | nil => rw [List.takeWhile_nil, List.append_nil]
  | cons c rest =>
    rw [List.takeWhile_cons_of_neg (by simp [ends c rfl]), List.append_nil]

/-- What is left behind a run of characters is the text after it. -/
theorem dropWhile_run (run : ∀ c ∈ s, p c = true) (ends : ∀ c ∈ rest.head?, p c = false) :
    (s ++ rest).dropWhile p = rest := by
  rw [List.dropWhile_append_of_pos run]
  cases rest with
  | nil => rfl
  | cons c rest => exact List.dropWhile_cons_of_neg (by simp [ends c rfl])

/-- A text with a character that is no blank in front has no blanks to take off. -/
theorem trimStart_cons {c : Char} (rest : List Char) (mark : isBlank c = false) :
    trimStart (c :: rest) = c :: rest := by
  simp [trimStart, mark]

/-- A text that does not begin with a blank has none to take off in front. -/
theorem trimStart_eq_self (front : ∀ c ∈ s.head?, isBlank c = false) : trimStart s = s := by
  cases s with
  | nil => rfl
  | cons c rest => exact trimStart_cons rest (front c rfl)

/-- Blanks in front of a text are taken off it. -/
theorem trimStart_blanks (blank : ∀ c ∈ before, isBlank c = true) (rest : List Char) :
    trimStart (before ++ rest) = trimStart rest :=
  List.dropWhile_append_of_pos blank

/-- A text is its leading blanks and what is left after them. -/
theorem blanks_trimStart (s : List Char) : ∃ blanks, s = blanks ++ trimStart s ∧
    ∀ c ∈ blanks, isBlank c = true :=
  ⟨s.takeWhile isBlank, List.takeWhile_append_dropWhile.symm,
    fun _ member => List.mem_takeWhile_imp member⟩

/-- Blanks behind a text are taken off it. -/
theorem trimEnd_blanks (blank : ∀ c ∈ after, isBlank c = true) (s : List Char) :
    trimEnd (s ++ after) = trimEnd s := by
  have turned : ∀ c ∈ after.reverse, isBlank c = true :=
    fun c member => blank c (List.mem_reverse.1 member)
  rw [trimEnd, trimEnd, List.reverse_append, List.dropWhile_append_of_pos turned]

/-- Blanks on both sides of a text are taken off it, whatever else is. -/
theorem trim_surrounded (front : ∀ c ∈ before, isBlank c = true)
    (back : ∀ c ∈ after, isBlank c = true) : trim (before ++ middle ++ after) = trim middle := by
  rw [trim, trim, List.append_assoc, trimStart_blanks front, trimStart, List.dropWhile_append]
  split
  -- A text of blanks alone is used up from the front, and the blanks behind it with it.
  · next nothing =>
    rw [List.dropWhile_eq_nil_iff.2 back, trimStart, List.isEmpty_iff.1 nothing]
  · exact trimEnd_blanks back _

/-- A text that neither begins nor ends with a blank. -/
def Unpadded (s : List Char) : Prop :=
  (∀ c ∈ s.head?, isBlank c = false) ∧ ∀ c ∈ s.getLast?, isBlank c = false

instance (s : List Char) : Decidable (Unpadded s) :=
  decidable_of_iff ((s.head?.all fun c => !isBlank c) = true ∧
    (s.getLast?.all fun c => !isBlank c) = true) (by simp [Unpadded, Option.all_eq_true])

/-- A text is one without blanks at its ends, and blanks around it. -/
def Pads (core s : List Char) : Prop :=
  Unpadded core ∧ ∃ before after, s = before ++ core ++ after ∧
    (∀ c ∈ before, isBlank c = true) ∧ ∀ c ∈ after, isBlank c = true

/-- A text without blanks at its ends is left as it is. -/
theorem trim_unpadded (ends : Unpadded s) : trim s = s := by
  have back : trimStart s.reverse = s.reverse :=
    trimStart_eq_self (by rw [List.head?_reverse]; exact ends.2)
  rw [trim, trimStart_eq_self ends.1, trimEnd, ← trimStart, back, List.reverse_reverse]

/-- A text is what is left before its trailing blanks, and these. -/
theorem blanks_trimEnd (s : List Char) : ∃ blanks, s = trimEnd s ++ blanks ∧
    ∀ c ∈ blanks, isBlank c = true := by
  obtain ⟨blanks, split, blank⟩ := blanks_trimStart s.reverse
  refine ⟨blanks.reverse, ?_, fun c member => blank c (List.mem_reverse.1 member)⟩
  rw [trimEnd, ← List.reverse_append, ← trimStart, ← split, List.reverse_reverse]

/-- Taking blanks off leaves none at the ends. -/
theorem unpadded_trim (s : List Char) : Unpadded (trim s) := by
  constructor
  · intro c first
    obtain ⟨rest, left⟩ := List.head?_eq_some_iff.1 first
    obtain ⟨blanks, split, -⟩ := blanks_trimEnd (trimStart s)
    have begins : trimStart s = c :: (rest ++ blanks) := by
      rw [split, ← trim, left, List.cons_append]
    exact isBlank_head_trimStart begins
  · intro c last
    rw [trim, trimEnd, List.getLast?_reverse] at last
    obtain ⟨rest, left⟩ := List.head?_eq_some_iff.1 last
    exact isBlank_head_trimStart left

/-- Taking blanks off finds the text that blanks were put around. -/
theorem trim_eq_iff (s core : List Char) : trim s = core ↔ Pads core s := by
  constructor
  · rintro rfl
    obtain ⟨before, split, blank⟩ := blanks_trimStart s
    obtain ⟨after, split', blank'⟩ := blanks_trimEnd (trimStart s)
    refine ⟨unpadded_trim s, before, after, ?_, blank, blank'⟩
    rw [trim, List.append_assoc, ← split', ← split]
  · rintro ⟨ends, before, after, rfl, blank, blank'⟩
    rw [trim_surrounded blank blank', trim_unpadded ends]

/-- A text without blanks has none at its ends. -/
theorem trim_eq_self (marks : ∀ c ∈ s, isBlank c = false) : trim s = s :=
  trim_unpadded ⟨fun c first => marks c (List.mem_of_head? first),
    fun c last => marks c (List.mem_of_getLast? last)⟩

end RecordTyping.Text
