import Mathlib.Algebra.Order.Field.Rat
import Mathlib.Tactic.FieldSimp
import Mathlib.Tactic.NormNum
import Mathlib.Tactic.Ring
import RecordTyping.Number.Binary64

/-!
# The value of a double

A finite double stands for a rational number, which the format gives by its sign, its exponent and
its fraction. That number is the magnitude in units over the units of one, so that the integers
among the doubles are found by division of natural numbers: a double has an integer exactly if
its value is that integer.
-/

namespace RecordTyping.Binary64

/-- The exponent bits of a word, the eleven above the fraction. -/
def exponent (word : Nat) : Nat := word / binade

/-- The fraction bits of a word, the lowest 52. -/
def fraction (word : Nat) : Nat := word % binade

/-- The exact magnitude of a word. If the exponent bits are zero the significand has no leading
one, and the power of two is that of the least words that have one. -/
def absoluteValue (word : Nat) : ℚ :=
  if exponent word = 0 then (fraction word : ℚ) / 2 ^ 52 * 2 ^ (-1022 : ℤ)
  else (1 + (fraction word : ℚ) / 2 ^ 52) * 2 ^ ((exponent word : ℤ) - 1023)

/-- The exact value of a finite double. -/
def value (d : Binary64) : ℚ := if d.negative then -absoluteValue d.word else absoluteValue d.word

/-- There are some units in one. -/
theorem unitsPerOne_pos : 0 < unitsPerOne := by decide

/-- The units of one make up for the fraction bits and for the least exponent. -/
theorem unitsPerOne_eq : (unitsPerOne : ℚ) = 2 ^ 52 * 2 ^ 1022 := by
  have powers (a b : ℕ) : ((1 <<< a <<< b : ℕ) : ℚ) = 2 ^ a * 2 ^ b := by
    rw [Nat.shiftLeft_eq, Nat.one_shiftLeft]
    push_cast
    rfl
  have shifts : unitsPerOne = 1 <<< 52 <<< 1022 := Nat.shiftLeft_add 1 52 1022
  rw [shifts, powers]

/-- The units of a word by its exponent and its fraction. The words of exponent one have a leading
one, but step by single units as the words below them do. -/
theorem units_eq (word : Nat) : units word =
    if exponent word = 0 then fraction word
    else (binade + fraction word) * 2 ^ (exponent word - 1) := by
  have parts : binade * exponent word + fraction word = word := Nat.div_add_mod word binade
  have below : fraction word < binade := Nat.mod_lt word (by decide)
  unfold units
  by_cases small : word < 2 * binade
  · rw [if_pos small]
    by_cases zero : exponent word = 0
    · rw [if_pos zero]
      rw [zero] at parts
      omega
    · have one : exponent word = 1 := by
        have upper : exponent word < 2 := Nat.div_lt_of_lt_mul (by omega)
        omega
      rw [if_neg zero, one, Nat.sub_self, Nat.pow_zero, Nat.mul_one]
      rw [one] at parts
      omega
  · have positive : exponent word ≠ 0 := by
      intro zero
      rw [zero] at parts
      omega
    rw [if_neg small, if_neg positive, Nat.shiftLeft_eq]
    rfl

/-- The magnitude of a word is its units over the units of one. -/
theorem absoluteValue_eq (word : Nat) : absoluteValue word = (units word : ℚ) / unitsPerOne := by
  have lowest : (2 : ℚ) ^ (-1022 : ℤ) = (2 ^ 1022)⁻¹ := by
    rw [zpow_neg, zpow_ofNat]
  have positive : (2 : ℚ) ^ 1022 ≠ 0 := pow_ne_zero 1022 (by norm_num)
  rw [absoluteValue, units_eq, unitsPerOne_eq]
  -- the power is kept closed, since it is too large to be worked out
  generalize (2 : ℚ) ^ 1022 = scale at lowest positive
  by_cases zero : exponent word = 0
  · rw [if_pos zero, if_pos zero, lowest]
    field_simp
  · obtain ⟨e, above⟩ : ∃ e, exponent word = e + 1 := Nat.exists_eq_succ_of_ne_zero zero
    have power : (2 : ℚ) ^ (((e + 1 : ℕ) : ℤ) - 1023) = 2 ^ e * scale⁻¹ := by
      have shifted : ((e + 1 : ℕ) : ℤ) - 1023 = (e : ℤ) + (-1022) := by
        push_cast
        ring
      rw [shifted, zpow_add₀ (by norm_num), lowest, zpow_natCast]
    have leading : (binade : ℚ) = 2 ^ 52 := by
      norm_num [binade]
    rw [if_neg zero, if_neg zero, above, Nat.add_sub_cancel, power, Nat.cast_mul, Nat.cast_add,
      Nat.cast_pow, Nat.cast_ofNat, leading]
    field_simp

/-- An integer is the value exactly if the magnitude, with the sign, is as many times the units of
one. -/
theorem value_eq_intCast (d : Binary64) (n : ℤ) : d.value = n ↔
    (if d.negative then -(d.magnitude : ℤ) else d.magnitude) = n * unitsPerOne := by
  have positive : (unitsPerOne : ℚ) ≠ 0 := Nat.cast_ne_zero.2 (Nat.ne_of_gt unitsPerOne_pos)
  have scaled (u : ℤ) : (u : ℚ) / unitsPerOne = n ↔ u = n * unitsPerOne := by
    rw [div_eq_iff positive]
    exact_mod_cast Iff.rfl
  rw [value, absoluteValue_eq, ← magnitude]
  cases d.negative
  · exact scaled d.magnitude
  · have signed : -((d.magnitude : ℚ) / unitsPerOne) = ((-d.magnitude : ℤ) : ℚ) / unitsPerOne := by
      push_cast
      rw [neg_div]
    rw [if_pos rfl, if_pos rfl, signed]
    exact scaled (-d.magnitude)

/-- A double has an integer exactly if its value is that integer. -/
theorem toInt?_eq_some {d : Binary64} {n : ℤ} : d.toInt? = some n ↔ d.value = n := by
  rw [value_eq_intCast, toInt?]
  have positive := unitsPerOne_pos
  generalize unitsPerOne = one at positive
  generalize d.magnitude = units
  by_cases whole : units % one = 0
  · have exact' : (units : ℤ) = (units / one : ℕ) * one := by
      exact_mod_cast (Nat.div_mul_cancel (Nat.dvd_of_mod_eq_zero whole)).symm
    have unit : (one : ℤ) ≠ 0 := by omega
    rw [if_pos whole, Option.some.injEq]
    cases d.negative
    · simp only [Bool.false_eq_true, ↓reduceIte]
      rw [exact', mul_left_inj' unit]
    · simp only [↓reduceIte]
      rw [exact', ← neg_mul, mul_left_inj' unit]
  · rw [if_neg whole]
    have divides (m : ℤ) : (units : ℤ) ≠ m * one := by
      intro same
      have multiple : (one : ℤ) ∣ units := Dvd.intro_left m same.symm
      exact whole (Nat.mod_eq_zero_of_dvd (Int.natCast_dvd_natCast.1 multiple))
    simp only [reduceCtorEq, false_iff]
    cases d.negative
    · exact divides n
    · intro same
      rw [if_pos rfl] at same
      exact divides (-n) (by rw [neg_mul, ← same, neg_neg])

end RecordTyping.Binary64
