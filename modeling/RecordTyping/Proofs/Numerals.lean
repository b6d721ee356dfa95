import Mathlib.Tactic.Ring
import RecordTyping.Proofs.Digits
import RecordTyping.Proofs.Traversal

/-!
# Reading numerals

A magnitude is read from a text exactly if the text is digits whose number stays within the bound,
and the number is what is read: the running value never shrinks, so that it stays within the bound
at every digit if it does at the last. So an integer is read exactly from the numerals of the
integers of the range, however many digits they have, and it is the one that they write.
-/

namespace RecordTyping.Text

variable {bound n m : Nat} {excess : NumeralFault} {s : List Char}

/-- Reading on from a number multiplies it by the power of ten of the characters read. -/
theorem foldl_digits (n : Nat) (s : List Char) :
    s.foldl (fun n c => 10 * n + (digitValue? c).getD 0) n = n * 10 ^ s.length + digitsValue s := by
  induction s using List.reverseRecOn with
  | nil => simp [digitsValue]
  | append_singleton s c ih =>
    rw [List.foldl_append, ih, digitsValue_append_digit, List.length_append, List.length_singleton,
      Nat.pow_succ, List.foldl_cons, List.foldl_nil]
    ring

/-- The first digit counts for the power of ten of the digits after it. -/
theorem digitsValue_cons (c : Char) (s : List Char) :
    digitsValue (c :: s) = (digitValue? c).getD 0 * 10 ^ s.length + digitsValue s := by
  rw [digitsValue, List.foldl_cons, foldl_digits, Nat.mul_zero, Nat.zero_add]

/-- A magnitude is read from digits alone, as the number that they continue, within the bound. -/
theorem readMagnitude_eq_ok (within : n ≤ bound) : readMagnitude bound excess n s = .ok m ↔
    (∀ c ∈ s, c.isDigit = true) ∧ n * 10 ^ s.length + digitsValue s = m ∧ m ≤ bound := by
  induction s generalizing n with
  | nil =>
    simp only [readMagnitude, Except.ok.injEq, List.not_mem_nil, false_implies, implies_true,
      List.length_nil, Nat.pow_zero, Nat.mul_one, true_and]
    constructor
    · rintro rfl
      exact ⟨rfl, within⟩
    · exact fun h => h.1
  | cons c s ih =>
    by_cases digit : c.isDigit = true
    · have read : digitValue? c = some (c.toNat - 48) := if_pos digit
      have value : n * 10 ^ (c :: s).length + digitsValue (c :: s) =
          (10 * n + (c.toNat - 48)) * 10 ^ s.length + digitsValue s := by
        rw [digitsValue_cons, read, Option.getD_some, List.length_cons, Nat.pow_succ]
        ring
      have grown : 10 * n + (c.toNat - 48) ≤
          (10 * n + (c.toNat - 48)) * 10 ^ s.length + digitsValue s :=
        le_trans (Nat.le_mul_of_pos_right _ (Nat.pow_pos (by decide))) (Nat.le_add_right _ _)
      simp only [readMagnitude, read, List.forall_mem_cons, digit, true_and, value]
      split
      · next inside => rw [ih inside]
      · next outside =>
        simp only [reduceCtorEq, false_iff]
        rintro ⟨-, rfl, small⟩
        exact outside (le_trans grown small)
    · have unread : digitValue? c = none := if_neg digit
      simp only [readMagnitude, unread, reduceCtorEq, List.forall_mem_cons, digit,
        false_and]

/-- Digits are refused for nothing but the bound. -/
theorem readMagnitude_digits (digits : ∀ c ∈ s, c.isDigit = true) :
    (∃ m, readMagnitude bound excess n s = .ok m) ∨
      readMagnitude bound excess n s = .error excess := by
  induction s generalizing n with
  | nil => exact Or.inl ⟨n, rfl⟩
  | cons c s ih =>
    rw [List.forall_mem_cons] at digits
    have read : digitValue? c = some (c.toNat - 48) := if_pos digits.1
    simp only [readMagnitude, read]
    split
    · exact ih digits.2
    · exact Or.inr rfl

/-- A text without a sign in front is read as a magnitude. -/
theorem readInteger_unsigned {c : Char} (unsigned : c ≠ '+' ∧ c ≠ '-') (below above : Nat)
    (s : List Char) : readInteger below above (c :: s) =
      (readMagnitude above .tooLarge 0 (c :: s)).map Int.ofNat := by
  unfold readInteger
  split <;> simp_all

/-- A text that is a numeral, with the integer that it writes: digits, of which there is at least
one, after a sign or without one. -/
inductive Numeral : List Char → ℤ → Prop where
  | unsigned {digits : List Char} (filled : digits ≠ [])
    (each : ∀ c ∈ digits, c.isDigit = true) : Numeral digits (Nat.ofDigitChars 10 digits 0)
  | positive {digits : List Char} (filled : digits ≠ [])
    (each : ∀ c ∈ digits, c.isDigit = true) : Numeral ('+' :: digits) (Nat.ofDigitChars 10 digits 0)
  | negative {digits : List Char} (filled : digits ≠ [])
    (each : ∀ c ∈ digits, c.isDigit = true) :
    Numeral ('-' :: digits) (-(Nat.ofDigitChars 10 digits 0 : ℤ))

/-- A numeral has no blanks. -/
theorem Numeral.unblank {number : ℤ} (numeral : Numeral s number) : ∀ c ∈ s, isBlank c = false := by
  cases numeral with
  | unsigned filled each => exact fun c member => isBlank_of_isDigit (each c member)
  | positive filled each =>
    exact List.forall_mem_cons.2 ⟨rfl, fun c member => isBlank_of_isDigit (each c member)⟩
  | negative filled each =>
    exact List.forall_mem_cons.2 ⟨rfl, fun c member => isBlank_of_isDigit (each c member)⟩

/-- The text of an integer is a numeral of it. -/
theorem numeral_intNumeral (number : ℤ) : Numeral (intNumeral number).toList number := by
  have filled (n : Nat) : Nat.toDigits 10 n ≠ [] := Nat.toDigits_ne_nil
  have each (n : Nat) (c : Char) (member : c ∈ Nat.toDigits 10 n) : c.isDigit = true :=
    Nat.isDigit_of_mem_toDigits (by decide) (by decide) member
  cases number with
  | ofNat n =>
    have text : (intNumeral (.ofNat n)).toList = Nat.toDigits 10 n := by
      simp [intNumeral, natNumeral]
    have numeral := Numeral.unsigned (filled n) (each n)
    rw [Nat.ofDigitChars_ten_toDigits] at numeral
    rw [text]
    exact numeral
  | negSucc n =>
    have text : (intNumeral (.negSucc n)).toList = '-' :: Nat.toDigits 10 (n + 1) := by
      simp [intNumeral, natNumeral]
    have numeral := Numeral.negative (filled (n + 1)) (each (n + 1))
    rw [Nat.ofDigitChars_ten_toDigits] at numeral
    rw [text]
    exact numeral

section Range

variable {below above : Nat} {digits : List Char} {number : ℤ}

/-- A magnitude is read from digits exactly as their number, if it is within the bound. -/
theorem readMagnitude_number (each : ∀ c ∈ digits, c.isDigit = true) :
    readMagnitude bound excess 0 digits =
      if Nat.ofDigitChars 10 digits 0 ≤ bound then .ok (Nat.ofDigitChars 10 digits 0)
      else .error excess := by
  have exact' (m : Nat) : readMagnitude bound excess 0 digits = .ok m ↔
      Nat.ofDigitChars 10 digits 0 = m ∧ m ≤ bound := by
    rw [readMagnitude_eq_ok (Nat.zero_le bound), Nat.zero_mul, Nat.zero_add,
      digitsValue_eq_ofDigitChars each]
    exact and_iff_right each
  split
  · next within => exact (exact' _).2 ⟨rfl, within⟩
  · next beyond =>
    rcases readMagnitude_digits each with ⟨m, read⟩ | refused
    · obtain ⟨rfl, within⟩ := (exact' m).1 read
      exact absurd within beyond
    · exact refused

/-- After a plus sign a magnitude is read. -/
theorem readInteger_plus (filled : digits ≠ []) : readInteger below above ('+' :: digits) =
    (readMagnitude above .tooLarge 0 digits).map Int.ofNat := by
  obtain ⟨c, digits, rfl⟩ := List.exists_cons_of_ne_nil filled
  rfl

/-- After a minus sign a magnitude is read, where negative integers exist. -/
theorem readInteger_minus (signed : 0 < below) (filled : digits ≠ []) :
    readInteger below above ('-' :: digits) =
      (readMagnitude below .tooSmall 0 digits).map fun n : Nat => -(n : ℤ) := by
  obtain ⟨c, digits, rfl⟩ := List.exists_cons_of_ne_nil filled
  have positive : ¬below = 0 := Nat.ne_of_gt signed
  simp only [readInteger, positive, ↓reduceIte]
  cases readMagnitude below .tooSmall 0 (c :: digits) <;> rfl

/-- Every numeral is read as its integer, or refused because that is out of the range. -/
theorem readInteger_numeral (signed : 0 < below) (numeral : Numeral s number) :
    readInteger below above s =
      if (above : ℤ) < number then .error .tooLarge
      else if number < -(below : ℤ) then .error .tooSmall
      else .ok number := by
  have nonnegative (n : Nat) :
      ((if n ≤ above then .ok n else .error .tooLarge : Except NumeralFault Nat).map Int.ofNat) =
        if (above : ℤ) < n then .error .tooLarge
        else if (n : ℤ) < -(below : ℤ) then .error .tooSmall
        else .ok (n : ℤ) := by
    have notSmall : ¬(n : ℤ) < -(below : ℤ) := by omega
    by_cases within : n ≤ above
    · rw [if_pos within, if_neg (by omega), if_neg notSmall]
      rfl
    · rw [if_neg within, if_pos (by omega)]
      rfl
  cases numeral with
  | unsigned filled each =>
    obtain ⟨c, digits, rfl⟩ := List.exists_cons_of_ne_nil filled
    have digit := each c List.mem_cons_self
    have unsigned : c ≠ '+' ∧ c ≠ '-' := by
      constructor <;> rintro rfl <;> cases digit
    rw [readInteger_unsigned unsigned, readMagnitude_number each]
    exact nonnegative _
  | positive filled each =>
    rw [readInteger_plus filled, readMagnitude_number each]
    exact nonnegative _
  | negative filled each =>
    rw [readInteger_minus signed filled, readMagnitude_number each]
    generalize Nat.ofDigitChars 10 _ 0 = n
    have notLarge : ¬(above : ℤ) < -(n : ℤ) := by omega
    rw [if_neg notLarge]
    by_cases within : n ≤ below
    · rw [if_pos within, if_neg (by omega)]
      rfl
    · rw [if_neg within, if_pos (by omega)]
      rfl

/-- Only numerals are read. -/
theorem numeral_of_readInteger (signed : 0 < below)
    (read : readInteger below above s = .ok number) : Numeral s number := by
  have whole {bound m : Nat} {excess : NumeralFault} {digits : List Char}
      (taken : readMagnitude bound excess 0 digits = .ok m) :
      (∀ d ∈ digits, d.isDigit = true) ∧ Nat.ofDigitChars 10 digits 0 = m := by
    obtain ⟨each, value, -⟩ := (readMagnitude_eq_ok (Nat.zero_le bound)).1 taken
    rw [Nat.zero_mul, Nat.zero_add, digitsValue_eq_ofDigitChars each] at value
    exact ⟨each, value⟩
  cases s with
  | nil => cases read
  | cons c digits =>
    by_cases plus : c = '+'
    · subst plus
      have filled : digits ≠ [] := by
        rintro rfl
        cases read
      rw [readInteger_plus filled] at read
      obtain ⟨m, taken, rfl⟩ := Traversal.map_eq_ok.1 read
      obtain ⟨each, rfl⟩ := whole taken
      exact .positive filled each
    · by_cases minus : c = '-'
      · subst minus
        have filled : digits ≠ [] := by
          rintro rfl
          cases read
        rw [readInteger_minus signed filled] at read
        obtain ⟨m, taken, rfl⟩ := Traversal.map_eq_ok.1 read
        obtain ⟨each, rfl⟩ := whole taken
        exact .negative filled each
      · rw [readInteger_unsigned ⟨plus, minus⟩] at read
        obtain ⟨m, taken, rfl⟩ := Traversal.map_eq_ok.1 read
        obtain ⟨each, rfl⟩ := whole taken
        exact .unsigned (List.cons_ne_nil c digits) each

/-- Where negative integers exist, an integer is read exactly from its numerals, if it is in the
range. -/
theorem readInteger_eq_ok (signed : 0 < below) : readInteger below above s = .ok number ↔
    Numeral s number ∧ -(below : ℤ) ≤ number ∧ number ≤ above := by
  constructor
  · intro read
    have numeral := numeral_of_readInteger signed read
    rw [readInteger_numeral signed numeral] at read
    split at read
    · cases read
    · split at read
      · cases read
      · exact ⟨numeral, by omega, by omega⟩
  · rintro ⟨numeral, lower, upper⟩
    rw [readInteger_numeral signed numeral, if_neg (by omega), if_neg (by omega)]

end Range

end RecordTyping.Text
