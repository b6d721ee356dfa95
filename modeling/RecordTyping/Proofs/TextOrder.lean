import RecordTyping.Proofs.DayNumber
import RecordTyping.Proofs.Numerals

/-!
# The order of texts

Texts are ordered by their bytes. Texts that have as many bytes compare part by part, the first part
that differs deciding, and numbers that are written with as many digits compare as numbers do. So
texts of one layout, whose parts have widths of their own, are in the order of what they write.
-/

namespace RecordTyping.Text

/-- The bytes of a text in UTF-8. -/
def bytes (s : String) : List UInt8 := s.toUTF8.data.toList

/-- The bytes of characters in UTF-8. -/
def utf8 (s : List Char) : List UInt8 := s.flatMap String.utf8EncodeChar

/-- The bytes of a text are those of its characters. -/
theorem bytes_ofList (s : List Char) : bytes (String.ofList s) = utf8 s := by
  rw [bytes, String.toUTF8, String.toByteArray_ofList, List.utf8Encode,
    List.toList_data_toByteArray, utf8]

/-- The bytes of a text that goes on are those of its two parts. -/
theorem utf8_append (s t : List Char) : utf8 (s ++ t) = utf8 s ++ utf8 t := List.flatMap_append

/-- Texts of as many bytes that compare as is said. -/
structure Compares (s t : List Char) (order : Ordering) : Prop where
  length : (utf8 s).length = (utf8 t).length
  bytes : compare (utf8 s) (utf8 t) = order

/-- Lists that go on compare by their first parts, if those are as long, and then by what follows.
-/
theorem compare_append {a b : List UInt8} (length : a.length = b.length) (c d : List UInt8) :
    compare (a ++ c) (b ++ d) = (compare a b).then (compare c d) := by
  induction a generalizing b with
  | nil =>
    obtain rfl := List.eq_nil_of_length_eq_zero length.symm
    rfl
  | cons x a ih =>
    cases b with
    | nil => cases length
    | cons y b =>
      rw [List.cons_append, List.cons_append, List.compare_cons_cons, List.compare_cons_cons,
        ih (Nat.succ.inj length), Ordering.then_assoc]

namespace Compares

variable {s t s' t' : List Char} {order order' : Ordering}

/-- A text compares to itself as the same. -/
theorem refl (s : List Char) : Compares s s .eq := ⟨rfl, Std.ReflCmp.compare_self⟩

/-- Texts of two parts compare by the first, and by the second if the first are the same. -/
theorem append (first : Compares s t order) (second : Compares s' t' order') :
    Compares (s ++ s') (t ++ t') (order.then order') := by
  constructor
  · rw [utf8_append, utf8_append, List.length_append, List.length_append, first.length,
      second.length]
  · rw [utf8_append, utf8_append, compare_append first.length, first.bytes, second.bytes]

/-- A mark in both texts plays no part in their order. -/
theorem mark (c : Char) (rest : Compares s t order) : Compares (c :: s) (c :: t) order := by
  have whole := (refl [c]).append rest
  rwa [Ordering.eq_then] at whole

end Compares

/-- Bytes compare as their numbers do. -/
theorem compare_byte (a b : UInt8) : compare a b = compare a.toNat b.toNat := by
  rcases Nat.lt_trichotomy a.toNat b.toNat with less | same | more
  · rw [Nat.compare_eq_lt.2 less, Std.compare_eq_lt.2 (UInt8.lt_iff_toNat_lt.2 less)]
  · rw [Nat.compare_eq_eq.2 same, UInt8.toNat_inj.1 same]
    exact Std.ReflCmp.compare_self
  · rw [Nat.compare_eq_gt.2 more, Std.compare_eq_gt.2 (UInt8.lt_iff_toNat_lt.2 more)]

/-- A digit is one byte, which counts on from that of zero. -/
theorem utf8_digit {c : Char} (digit : c.isDigit = true) :
    ∃ (byte : UInt8) (d : Nat), utf8 [c] = [byte] ∧ digitValue? c = some d ∧
      byte.toNat = 48 + d := by
  obtain ⟨low, high⟩ := Char.isDigit_iff_toNat.1 digit
  have above : 48 ≤ c.toNat := low
  have below : c.toNat ≤ 57 := high
  have byte : utf8 [c] = [UInt8.ofNat c.toNat] := by
    have small : c.val.toNat ≤ 127 := Nat.le_trans below (by decide)
    simp only [utf8, List.flatMap_cons, List.flatMap_nil, List.append_nil, String.utf8EncodeChar,
      if_pos small]
    rfl
  refine ⟨_, c.toNat - 48, byte, if_pos digit, ?_⟩
  rw [UInt8.toNat_ofNat']
  omega

/-- Single digits compare as their values do. -/
theorem compares_digit {c c' : Char} (digit : c.isDigit = true) (digit' : c'.isDigit = true) :
    Compares [c] [c'] (compare ((digitValue? c).getD 0) ((digitValue? c').getD 0)) := by
  obtain ⟨byte, d, bytes, value, place⟩ := utf8_digit digit
  obtain ⟨byte', d', bytes', value', place'⟩ := utf8_digit digit'
  refine ⟨by rw [bytes, bytes']; rfl, ?_⟩
  have onward := Calendar.compare_onward (48 : Nat) d d'
  rw [← Int.natCast_add, ← Int.natCast_add, Calendar.compare_natCast] at onward
  have single : compare [byte] [byte'] = compare byte byte' := by
    rw [List.compare_cons_cons]
    exact Ordering.then_eq
  rw [bytes, bytes', single, compare_byte, place, place', value, value', onward]
  rfl

/-- As many digits compare as the numbers that they write. -/
theorem compares_digits {s t : List Char} (each : ∀ c ∈ s, c.isDigit = true)
    (each' : ∀ c ∈ t, c.isDigit = true) (length : s.length = t.length) :
    Compares s t (compare (digitsValue s) (digitsValue t)) := by
  induction s generalizing t with
  | nil =>
    obtain rfl := List.eq_nil_of_length_eq_zero length.symm
    exact Compares.refl []
  | cons c s ih =>
    cases t with
    | nil => cases length
    | cons c' t =>
      rw [List.forall_mem_cons] at each each'
      have length := Nat.succ.inj length
      have whole := (compares_digit each.1 each'.1).append (ih each.2 each'.2 length)
      rwa [← Calendar.compare_natPlaces (digitsValue_lt s) (length ▸ digitsValue_lt t),
        ← digitsValue_cons, length, ← digitsValue_cons] at whole

/-- Numbers that are written with as many digits compare as numbers. -/
theorem Digits.compares {width number other : Nat} {s t : List Char}
    (digits : Digits width number s) (digits' : Digits width other t) :
    Compares s t (compare number other) := by
  have length : s.length = t.length := digits.length.trans digits'.length.symm
  have whole := compares_digits digits.digits digits'.digits length
  rwa [digits.value, digits'.value] at whole

end RecordTyping.Text
