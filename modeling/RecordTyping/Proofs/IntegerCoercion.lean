import RecordTyping.Proofs.Coercion
import RecordTyping.Proofs.DoubleValue
import RecordTyping.Proofs.Numerals

/-!
# Coercion to integers

A value is converted to an integer only if it stands for one, and then to that integer: nothing is
rounded on the way. Doubles are taken where their magnitude is below 2 to the power 63, so that the
lowest signed word is the one integer of its range that is refused as a double. Texts are taken in
the range of signed words alone, so that the integers above it are taken as numbers but not from
their own text.
-/

namespace RecordTyping

open Json (Value)

/-- The integers of the signed and unsigned words are those that are found in their range. -/
theorem Json.Integer.ofInt?_eq_some {number : ℤ} {n : Json.Integer} :
    Json.Integer.ofInt? number = some n ↔ n.val = number := by
  unfold Json.Integer.ofInt?
  constructor
  · intro found
    split at found
    · cases found
      rfl
    · cases found
  · rintro rfl
    exact dif_pos ⟨n.lower, n.upper⟩

namespace Coercion

variable {v w : Value} {d : Binary64} {s : List Char} {n : Json.Integer}

/-- A double becomes an integer exactly if it is that integer and its magnitude is below the first
that no signed word has. -/
theorem ofDouble_eq_ok : ofDouble d = .ok w ↔
    ∃ n : Json.Integer, d.value = n.val ∧ n.val.natAbs < 2 ^ 63 ∧ w = .integer n := by
  unfold ofDouble
  constructor
  · intro converted
    split at converted
    · next number whole =>
      split at converted
      · next small =>
        split at converted
        · next n found =>
          rw [Binary64.toInt?_eq_some] at whole
          obtain rfl := Json.Integer.ofInt?_eq_some.1 found
          exact ⟨n, whole, small, (Except.ok.inj converted).symm⟩
        · cases converted
      · cases converted
    · cases converted
  · rintro ⟨n, exact', small, rfl⟩
    rw [← Binary64.toInt?_eq_some] at exact'
    have found : Json.Integer.ofInt? n.val = some n := Json.Integer.ofInt?_eq_some.2 rfl
    have small' : n.val.natAbs < 0x8000000000000000 := small
    simp only [exact', small', found, ↓reduceIte]

/-- A double that does not become an integer is refused for that. -/
theorem ofDouble_cases (d : Binary64) :
    (∃ w, ofDouble d = .ok w) ∨ ofDouble d = .error .notIntegral := by
  unfold ofDouble
  split
  · split
    · split
      · exact Or.inl ⟨_, rfl⟩
      · exact Or.inr rfl
    · exact Or.inr rfl
  · exact Or.inr rfl

/-- A numeral of an integer becomes the integer, or it is too large for a signed word. -/
theorem ofNumeral_numeral (numeral : Text.Numeral s n.val) : ofNumeral s =
    if n.val < 2 ^ 63 then .ok (.integer n) else .error (.numeral .tooLarge) := by
  have lower := n.lower
  have found : Json.Integer.ofInt? n.val = some n := Json.Integer.ofInt?_eq_some.2 rfl
  rw [ofNumeral, Text.readInteger_numeral (by decide) numeral]
  by_cases small : n.val < 2 ^ 63
  · rw [if_neg (by omega), if_neg (by omega), if_pos small, Except.mapError, Traversal.ok_bind]
    simp only [found]
    rfl
  · rw [if_pos (by omega), if_neg small]
    rfl

/-- A text becomes an integer exactly if it is the numeral of one of the signed words. -/
theorem ofNumeral_eq_ok : ofNumeral s = .ok w ↔
    ∃ n : Json.Integer, Text.Numeral s n.val ∧ n.val < 2 ^ 63 ∧ w = .integer n := by
  constructor
  · intro converted
    obtain ⟨number, read, found⟩ := Traversal.bind_eq_ok.1 converted
    obtain ⟨numeral, -, upper⟩ :=
      (Text.readInteger_eq_ok (by decide)).1 (Traversal.mapError_eq_ok.1 read)
    split at found
    · next n same =>
      obtain rfl := Json.Integer.ofInt?_eq_some.1 same
      exact ⟨n, numeral, by omega, (Except.ok.inj found).symm⟩
    · cases found
  · rintro ⟨n, numeral, small, rfl⟩
    rw [ofNumeral_numeral numeral, if_pos small]

/-- The number that a value stands for, exactly: that of a number, or the one whose numeral a text
is when the blanks at its ends are taken off. -/
inductive Denotes : Value → ℚ → Prop where
  | integer (n : Json.Integer) : Denotes (.integer n) n.val
  | double (d : Binary64) : Denotes (.double d) d.value
  | string {s : String} {number : ℤ} (numeral : Text.Numeral (core s) number) :
    Denotes (.string s) number

/-- What is converted to an integer stands for it. -/
theorem toInteger_denotes (converted : toInteger v = .ok w) :
    ∃ n : Json.Integer, w = .integer n ∧ Denotes v n.val := by
  cases v with
  | integer n => exact ⟨n, (Except.ok.inj converted).symm, .integer n⟩
  | double d =>
    obtain ⟨n, exact', -, rfl⟩ := ofDouble_eq_ok.1 converted
    have denotes := Denotes.double d
    rw [exact'] at denotes
    exact ⟨n, rfl, denotes⟩
  | string s =>
    obtain ⟨n, numeral, -, rfl⟩ := ofNumeral_eq_ok.1 converted
    have denotes := Denotes.string numeral
    exact ⟨n, rfl, denotes⟩
  | _ => cases converted

end Coercion

section Coerce

open Coercion

variable {v w : Value}

/-- A value other than null is converted by the rule of integers. -/
theorem coerce_integer (present : v ≠ .null) : coerce .integer v =
    (toInteger v).mapError fun reason => ⟨.integer, v, reason⟩ :=
  coerce_plain rfl present

/-- A value is converted to an integer exactly by the rule of integers. -/
theorem coerce_integer_eq_ok : coerce .integer v = .ok w ↔ toInteger v = .ok w := by
  rw [coerce_plain_eq_ok rfl]
  refine and_iff_right_of_imp ?_
  rintro converted rfl
  cases converted

/-- What is not converted to an integer is refused. -/
theorem coerce_integer_refused (refused : ∀ w, coerce .integer v ≠ .ok w) :
    ∃ e, coerce .integer v = .error e := by
  cases result : coerce .integer v with
  | ok w => exact absurd result (refused w)
  | error e => exact ⟨e, rfl⟩

/-! ## Doubles -/

/-- A double becomes an integer exactly by the rule of doubles. -/
theorem coerce_double_eq_ok {d : Binary64} : coerce .integer (.double d) = .ok w ↔
    ∃ n : Json.Integer, d.value = n.val ∧ n.val.natAbs < 2 ^ 63 ∧ w = .integer n := by
  rw [coerce_integer_eq_ok, toInteger, ofDouble_eq_ok]

/-- The doubles that become integers are the integers of a magnitude below 2 to the power 63. -/
theorem double_taken_iff {d : Binary64} : (∃ w, coerce .integer (.double d) = .ok w) ↔
    ∃ n : ℤ, d.value = n ∧ n.natAbs < 2 ^ 63 := by
  constructor
  · rintro ⟨w, converted⟩
    obtain ⟨n, exact', small, -⟩ := coerce_double_eq_ok.1 converted
    exact ⟨n.val, exact', small⟩
  · rintro ⟨n, exact', small⟩
    have lower : -0x8000000000000000 ≤ n := by omega
    have upper : n < 0x10000000000000000 := by omega
    exact ⟨_, coerce_double_eq_ok.2 ⟨⟨n, lower, upper⟩, exact', small, rfl⟩⟩

/-- A double that does not become an integer is refused for not being integral. -/
theorem coerce_double_refused {d : Binary64}
    (refused : ¬∃ w, coerce .integer (.double d) = .ok w) :
    coerce .integer (.double d) = .error ⟨.integer, .double d, .notIntegral⟩ := by
  rcases ofDouble_cases d with ⟨w, converted⟩ | fault
  · exact absurd ⟨w, coerce_integer_eq_ok.2 converted⟩ refused
  · rw [coerce_integer (by simp), toInteger, fault]
    rfl

/-- Of the doubles exactly those become integers that are integers of a magnitude below 2 to the
power 63, and each becomes the integer that it is; every other double is refused for not being
integral. So the doubles that become integers are those of the integers of the signed words, but
for the lowest of them, which is refused. -/
theorem coerce_double_exact (d : Binary64) :
    (∀ w, coerce .integer (.double d) = .ok w ↔
      ∃ n : Json.Integer, d.value = n.val ∧ n.val.natAbs < 2 ^ 63 ∧ w = .integer n) ∧
    (coerce .integer (.double d) = .error ⟨.integer, .double d, .notIntegral⟩ ↔
      ¬∃ n : ℤ, d.value = n ∧ n.natAbs < 2 ^ 63) ∧
    (((∃ w, coerce .integer (.double d) = .ok w) ↔
      ∃ n : ℤ, d.value = n ∧ -2 ^ 63 ≤ n ∧ n ≤ 2 ^ 63 - 1) ↔ d.value ≠ -2 ^ 63) := by
  refine ⟨fun w => coerce_double_eq_ok, ?_, ?_⟩
  · rw [← double_taken_iff]
    constructor
    · rintro refused ⟨w, converted⟩
      rw [refused] at converted
      cases converted
    · exact coerce_double_refused
  · rw [double_taken_iff]
    constructor
    · intro law lowest
      have integral : d.value = ((-2 ^ 63 : ℤ) : ℚ) := by
        rw [lowest]
        norm_num
      obtain ⟨n, exact', small⟩ := law.2 ⟨-2 ^ 63, integral, le_refl _, by norm_num⟩
      have same : n = -2 ^ 63 := by
        rw [integral] at exact'
        exact (Int.cast_injective exact').symm
      rw [same] at small
      exact absurd small (by decide)
    · intro other
      constructor
      · rintro ⟨n, exact', small⟩
        exact ⟨n, exact', by omega, by omega⟩
      · rintro ⟨n, exact', lower, upper⟩
        have above : n ≠ -2 ^ 63 := by
          rintro rfl
          refine other ?_
          rw [exact']
          norm_num
        exact ⟨n, exact', by omega⟩

/-- Minus 2 to the power 63, the lowest integer of the signed words. -/
def lowestSigned : Binary64 := ⟨true, 0x43E0000000000000, by decide⟩

/-- The lowest integer of the signed words is one as a double, and is refused. -/
theorem coerce_double_lowest : lowestSigned.value = -2 ^ 63 ∧
    coerce .integer (.double lowestSigned) =
      .error ⟨.integer, .double lowestSigned, .notIntegral⟩ := by
  have integer : lowestSigned.toInt? = some (-2 ^ 63) := by decide +kernel
  have exact' : lowestSigned.value = ((-2 ^ 63 : ℤ) : ℚ) := Binary64.toInt?_eq_some.1 integer
  constructor
  · rw [exact']
    norm_num
  · refine coerce_double_refused ?_
    rw [double_taken_iff]
    rintro ⟨n, same, small⟩
    rw [exact'] at same
    obtain rfl : -2 ^ 63 = n := Int.cast_injective same
    exact absurd small (by decide)

/-! ## Through text -/

/-- The text of an integer that coercion yields is its numeral, and coercion takes it back to the
integer exactly if that is below 2 to the power 63: the integers above the signed words, which are
taken as numbers, are too large as texts. -/
theorem integer_through_text (converted : coerce .integer v = .ok w) :
    ∃ (n : Json.Integer) (s : String), w = .integer n ∧ coerce .string w = .ok (.string s) ∧
      Text.Numeral s.toList n.val ∧
      coerce .integer (.string s) = if n.val < 2 ^ 63 then .ok w
        else .error ⟨.integer, .string s, .numeral .tooLarge⟩ := by
  obtain ⟨n, rfl⟩ := toInteger_ok (coerce_integer_eq_ok.1 converted)
  have numeral := Text.numeral_intNumeral n.val
  have bare : core (Text.intNumeral n.val) = (Text.intNumeral n.val).toList :=
    Text.trim_eq_self numeral.unblank
  have written : coerce .string (.integer n) = .ok (.string (Text.intNumeral n.val)) := by
    rw [coerce_plain_eq_ok rfl, convert, toText, Value.render]
    exact ⟨by simp, rfl⟩
  refine ⟨n, Text.intNumeral n.val, rfl, written, numeral, ?_⟩
  rw [coerce_integer (by simp), toInteger, bare, ofNumeral_numeral numeral]
  split
  · rfl
  · rfl

/-- The lowest integer of the signed words goes through text and back. -/
theorem integer_through_text_lowest :
    let n : Json.Integer := ⟨-0x8000000000000000, by decide, by decide⟩
    coerce .integer (.string "\t-0009223372036854775808 ") = .ok (.integer n) ∧
      coerce .string (.integer n) = .ok (.string "-9223372036854775808") ∧
      coerce .integer (.string "-9223372036854775808") = .ok (.integer n) := by
  intro n
  have converted : coerce .integer (.string "\t-0009223372036854775808 ") = .ok (.integer n) := by
    rfl
  have written : coerce .string (.integer n) = .ok (.string "-9223372036854775808") := by rfl
  obtain ⟨m, s, same, text, -, back⟩ := integer_through_text converted
  obtain rfl := Value.integer.inj same
  rw [written] at text
  obtain rfl := Value.string.inj (Except.ok.inj text)
  rw [if_pos (by decide)] at back
  exact ⟨converted, written, back⟩

/-- The first integer above the signed words is taken as a number, and refused as the text that
coercion makes of it. -/
theorem integer_through_text_unsigned :
    let n : Json.Integer := ⟨0x8000000000000000, by decide, by decide⟩
    coerce .integer (.integer n) = .ok (.integer n) ∧
      coerce .string (.integer n) = .ok (.string "9223372036854775808") ∧
      coerce .integer (.string "9223372036854775808") =
        .error ⟨.integer, .string "9223372036854775808", .numeral .tooLarge⟩ := by
  refine ⟨rfl, ?_, ?_⟩
  · rfl
  · rfl

/-! ## Exactness -/

/-- A text becomes an integer exactly if it is the numeral of one of the signed words. -/
theorem string_taken_iff {s : String} : (∃ w, coerce .integer (.string s) = .ok w) ↔
    ∃ n : ℤ, Text.Numeral (core s) n ∧ -2 ^ 63 ≤ n ∧ n < 2 ^ 63 := by
  constructor
  · rintro ⟨w, converted⟩
    obtain ⟨n, numeral, upper, -⟩ := ofNumeral_eq_ok.1 (coerce_integer_eq_ok.1 converted)
    exact ⟨n.val, numeral, n.lower, upper⟩
  · rintro ⟨n, numeral, lower, upper⟩
    have upper' : n < 0x10000000000000000 := by omega
    have taken := ofNumeral_eq_ok.2 ⟨⟨n, lower, upper'⟩, numeral, upper, rfl⟩
    exact ⟨_, coerce_integer_eq_ok.2 taken⟩

/-- Coercion to integers changes no value. What is converted stands for the integer that it becomes:
it is that integer, or a double or a text of the same value. A text is refused exactly if it is not,
blanks at its ends apart, the numeral of an integer of the signed words, whatever its length; a
double that is no integer is refused. -/
theorem coerce_integer_exact (v : Value) :
    (∀ w, coerce .integer v = .ok w → ∃ n : Json.Integer, w = .integer n ∧ Denotes v n.val) ∧
    (∀ s, v = .string s → ((∃ e, coerce .integer v = .error e) ↔
      ¬∃ n : ℤ, Text.Numeral (core s) n ∧ -2 ^ 63 ≤ n ∧ n < 2 ^ 63)) ∧
    (∀ d, v = .double d → (¬∃ n : ℤ, d.value = n) → ∃ e, coerce .integer v = .error e) := by
  refine ⟨fun w converted => toInteger_denotes (coerce_integer_eq_ok.1 converted), ?_, ?_⟩
  · rintro s rfl
    rw [← string_taken_iff]
    constructor
    · rintro ⟨e, refused⟩ ⟨w, converted⟩
      rw [refused] at converted
      cases converted
    · intro refused
      exact coerce_integer_refused fun w converted => refused ⟨w, converted⟩
  · rintro d rfl fractional
    refine ⟨_, coerce_double_refused ?_⟩
    rw [double_taken_iff]
    rintro ⟨n, exact', -⟩
    exact fractional ⟨n, exact'⟩

/-- A text with leading zeros, more digits than any signed word has, stands for the integer that it
becomes; with a second sign it is refused, and so is one and a half. -/
theorem coerce_integer_exact_padded :
    (∃ n : Json.Integer, n.val = 7 ∧
      coerce .integer (.string " +0000000000000000000000007\n") = .ok (.integer n) ∧
      Denotes (.string " +0000000000000000000000007\n") n.val) ∧
    (∃ e, coerce .integer (.string "+-7") = .error e) ∧
    ∃ e, coerce .integer (.double threeHalves) = .error e := by
  refine ⟨?_, ?_, ?_⟩
  · have converted : coerce .integer (.string " +0000000000000000000000007\n") =
        .ok (.integer ⟨7, by decide, by decide⟩) := by rfl
    obtain ⟨n, same, denotes⟩ := (coerce_integer_exact _).1 _ converted
    obtain rfl := Value.integer.inj same
    exact ⟨_, rfl, converted, denotes⟩
  · refine ((coerce_integer_exact _).2.1 _ rfl).2 ?_
    rintro ⟨n, numeral, lower, upper⟩
    have read : Text.readInteger 0x8000000000000000 0x7FFFFFFFFFFFFFFF (core "+-7") = .ok n :=
      (Text.readInteger_eq_ok (by decide)).2 ⟨numeral, by omega, by omega⟩
    have refused : Text.readInteger 0x8000000000000000 0x7FFFFFFFFFFFFFFF (core "+-7") =
        .error .badDigit := by rfl
    rw [refused] at read
    cases read
  · refine (coerce_integer_exact _).2.2 _ rfl ?_
    rintro ⟨n, exact'⟩
    rw [← Binary64.toInt?_eq_some] at exact'
    have fractional : threeHalves.toInt? = none := by decide +kernel
    rw [fractional] at exact'
    cases exact'

end Coerce

end RecordTyping
