import Mathlib.Algebra.Group.Nat.Defs
import Mathlib.Data.List.Basic
import Mathlib.Data.List.Induction
import RecordTyping.Calendar.Reader
import RecordTyping.Proofs.Blanks

/-!
# Digits of a width

Numbers in dates and times are written with a least number of digits. A run of digits is
described by its width and its number, whoever wrote it; padding writes one, and the readers of
dates and times take one off the front of a text.
-/

namespace RecordTyping

namespace Text

/-- A text of digits alone, with its width and the number that it writes. -/
structure Digits (width number : Nat) (s : List Char) : Prop where
  digits : ∀ c ∈ s, c.isDigit = true
  length : s.length = width
  value : digitsValue s = number

/-- A digit is no blank. -/
theorem isBlank_of_isDigit {c : Char} (digit : c.isDigit = true) : isBlank c = false := by
  obtain ⟨low, high⟩ := Char.isDigit_iff_toNat.1 digit
  have above : 48 ≤ c.toNat := low
  have below : c.toNat ≤ 57 := high
  simp only [isBlank, Bool.or_eq_false_iff, Bool.and_eq_false_imp, decide_eq_true_eq,
    decide_eq_false_iff_not, beq_eq_false_iff_ne]
  omega

/-- A digit adds its value to ten times the number before it. -/
theorem digitsValue_append_digit (s : List Char) (c : Char) :
    digitsValue (s ++ [c]) = 10 * digitsValue s + (digitValue? c).getD 0 := by
  rw [digitsValue, List.foldl_append]
  rfl

/-- The value of digits is that of the library's reading of them. -/
theorem digitsValue_eq_ofDigitChars {s : List Char} (digits : ∀ c ∈ s, c.isDigit = true) :
    digitsValue s = Nat.ofDigitChars 10 s 0 := by
  rw [Nat.ofDigitChars_eq_foldl, digitsValue]
  apply List.foldl_ext
  intro n c member
  simp only [digitValue?, digits c member, ↓reduceIte, Option.getD_some]
  rfl

/-- The number of some characters is below the power of ten of their count. -/
theorem digitsValue_lt (s : List Char) : digitsValue s < 10 ^ s.length := by
  induction s using List.reverseRecOn with
  | nil => decide
  | append_singleton s c ih =>
    have digit : (digitValue? c).getD 0 ≤ 9 := by
      unfold digitValue?
      split
      · rename_i isDigit
        have high : c.toNat ≤ 57 := (Char.isDigit_iff_toNat.1 isDigit).2
        rw [Option.getD_some]
        omega
      · exact Nat.zero_le 9
    rw [digitsValue_append_digit, List.length_append, List.length_singleton, Nat.pow_succ]
    omega

end Text

namespace Calendar

open Text (Digits)

variable {width limit number : Nat} {s : List Char}

/-- Padding writes a number with at least as many digits as the width, and with more only if the
number needs them. -/
theorem padded_written (least : 0 < width) (number : Nat) :
    ∃ written, width ≤ written ∧ (width < written → 10 ^ (written - 1) ≤ number) ∧
      Digits written number (padded width number) := by
  have zeros (c : Char)
      (member : c ∈ List.replicate (width - (Nat.toDigits 10 number).length) '0') :
      c.isDigit = true := by
    rw [List.eq_of_mem_replicate member]
    rfl
  have numeral (c : Char) (member : c ∈ Nat.toDigits 10 number) : c.isDigit = true :=
    Nat.isDigit_of_mem_toDigits (by decide) (by decide) member
  have digits : ∀ c ∈ padded width number, c.isDigit = true := by
    intro c member
    exact (List.mem_append.1 member).elim (zeros c) (numeral c)
  refine ⟨(padded width number).length, ?_, ?_, digits, rfl, ?_⟩
  · rw [padded, List.length_append, List.length_replicate]
    omega
  · intro wider
    rw [padded, List.length_append, List.length_replicate] at wider ⊢
    have whole : width - (Nat.toDigits 10 number).length + (Nat.toDigits 10 number).length =
        (Nat.toDigits 10 number).length := by omega
    rw [whole]
    have excess : ¬(Nat.toDigits 10 number).length ≤ (Nat.toDigits 10 number).length - 1 := by omega
    rwa [Nat.length_toDigits_le_iff (by decide) (by omega), Nat.not_lt] at excess
  · rw [Text.digitsValue_eq_ofDigitChars digits, padded, Nat.ofDigitChars_append,
      Nat.ofDigitChars_replicate_zero, Nat.mul_zero, Nat.ofDigitChars_ten_toDigits]

/-- Padding writes a number that fits the width with just as many digits. -/
theorem padded_digits (least : 0 < width) (fits : number < 10 ^ width) :
    Digits width number (padded width number) := by
  obtain ⟨written, reached, needed, digits⟩ := padded_written least number
  have exact : written = width := by
    by_contra wider
    have more : width < written := by omega
    have power : 10 ^ width ≤ 10 ^ (written - 1) := Nat.pow_le_pow_right (by decide) (by omega)
    have large := needed more
    omega
  exact exact ▸ digits

/-- Digits in front of a text are all that is taken if there are as many as asked for, or if the
text goes on with none. -/
theorem leading_digits (digits : Digits width number s) (within : width ≤ limit)
    {rest : List Char} (whole : width = limit ∨ rest.takeWhile Char.isDigit = []) :
    ((s ++ rest).take limit).takeWhile Char.isDigit = s := by
  have later : (rest.take (limit - s.length)).takeWhile Char.isDigit = [] := by
    rcases whole with full | ends
    · rw [digits.length, full, Nat.sub_self, List.take_zero, List.takeWhile_nil]
    · cases rest with
      | nil => rw [List.take_nil, List.takeWhile_nil]
      | cons c rest =>
        cases limit - s.length with
        | zero => rfl
        | succ more =>
          rw [List.takeWhile_eq_nil_iff] at ends ⊢
          exact fun _ => ends (Nat.succ_pos _)
  have within' : s.take limit = s := List.take_of_length_le (by rw [digits.length]; exact within)
  rw [List.take_append, within', List.takeWhile_append_of_pos digits.digits, later, List.append_nil]

/-- Digits are read as their number. -/
theorem readNumber_digits (digits : Digits width number s) (filled : 0 < width)
    (within : width ≤ limit) (small : number ≤ maxNumber) (rest : List Char)
    (whole : width = limit ∨ rest.takeWhile Char.isDigit = []) :
    readNumber limit (s ++ rest) = .ok (number, rest) := by
  have full : s ≠ [] := List.ne_nil_of_length_pos (digits.length ▸ filled)
  have kept : (s ++ rest).isEmpty = false := by simp [full]
  simp only [readNumber, leading_digits digits within whole, kept, List.isEmpty_eq_false_iff.2 full,
    digits.value, Nat.not_lt.2 small, List.drop_left, Bool.false_eq_true, ↓reduceIte]

/-- The first of some digits is a digit. -/
theorem digits_front (digits : Digits width number s) (filled : 0 < width) :
    ∃ c tail, s = c :: tail ∧ c.isDigit = true := by
  cases s with
  | nil => simp [digits.length.symm] at filled
  | cons c tail => exact ⟨c, tail, rfl, digits.digits c List.mem_cons_self⟩

/-- No number starts with a mark that is no digit. -/
theorem readNumber_mark {c : Char} (mark : c.isDigit = false) (limit : Nat) (rest : List Char) :
    readNumber limit (c :: rest) = .error .badCharacter := by
  have none : ((c :: rest).take limit).takeWhile Char.isDigit = [] := by
    cases limit with
    | zero => rfl
    | succ limit => rw [List.take_succ_cons, List.takeWhile_cons_of_neg (by simp [mark])]
  simp only [readNumber, none, List.isEmpty_cons, List.isEmpty_nil, Bool.false_eq_true, ↓reduceIte]

/-- Digits have no blanks before them. -/
theorem trimStart_digits (digits : Digits width number s) (filled : 0 < width)
    (rest : List Char) :
    Text.trimStart (s ++ rest) = s ++ rest := by
  obtain ⟨c, tail, rfl, digit⟩ := digits_front digits filled
  exact Text.trimStart_cons _ (Text.isBlank_of_isDigit digit)

/-- Digits of a number of the range are read as the number. -/
theorem readPart_digits {low high : Nat} (digits : Digits width number s) (filled : 0 < width)
    (within : width ≤ limit) (small : number ≤ maxNumber) (range : low ≤ number ∧ number ≤ high)
    (rest : List Char) (whole : width = limit ∨ rest.takeWhile Char.isDigit = []) :
    readPart limit low high (s ++ rest) = .ok (number, rest) := by
  rw [readPart, trimStart_digits digits filled,
    readNumber_digits digits filled within small rest whole]
  exact if_pos range

/-- Digits of the width asked for are read as their number. -/
theorem fixedNumber?_digits (digits : Digits width number s) (rest : List Char) :
    fixedNumber? width (s ++ rest) = some (number, rest) := by
  have front : (s ++ rest).take width = s := digits.length ▸ List.take_left
  have back : (s ++ rest).drop width = rest := digits.length ▸ List.drop_left
  have all : s.all Char.isDigit = true := List.all_eq_true.2 digits.digits
  simp only [fixedNumber?, front, back, all, digits.length, digits.value, decide_true,
    Bool.and_self, ↓reduceIte]

/-- No number of a width starts with a mark that is no digit. -/
theorem fixedNumber?_mark {c : Char} (mark : c.isDigit = false) (filled : 0 < width)
    (rest : List Char) : fixedNumber? width (c :: rest) = none := by
  obtain ⟨more, rfl⟩ : ∃ more, width = more + 1 := ⟨width - 1, by omega⟩
  simp only [fixedNumber?, List.take_succ_cons, List.all_cons, mark, Bool.false_and, Bool.and_false,
    Bool.false_eq_true, ↓reduceIte]

end Calendar

end RecordTyping
