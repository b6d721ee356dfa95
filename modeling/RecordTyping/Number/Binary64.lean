/-!
# Finite doubles as data

A finite double of the IEEE format binary64 is a sign and a word: the 63 bits
below the sign bit, read as a number. The words of the finite doubles are those
below `limit`, they order the magnitudes, and the magnitude of a word is a whole
number of units of 2 to the power -1074. So rounding, comparing and printing need
no arithmetic but that of natural numbers.
-/

namespace RecordTyping

/-- The number of words of one exponent. -/
def Binary64.binade : Nat := 0x10000000000000

/-- The first word that is not a finite magnitude. -/
def Binary64.limit : Nat := 0x7FF * Binary64.binade

/-- A finite double: its sign and its other 63 bits. -/
structure Binary64 where
  /-- Whether the sign bit is set, also on a zero. -/
  negative : Bool
  /-- Exponent and fraction bits. -/
  word : Nat
  /-- Words from the limit on stand for infinity and the NaNs. -/
  finite : word < Binary64.limit
deriving DecidableEq

namespace Binary64

/-- The number of units of 2 to the power -1074 in the magnitude of a word. -/
def units (word : Nat) : Nat :=
  if word < 2 * binade then word else (binade + word % binade) <<< (word / binade - 1)

/-- How many units make one. -/
def unitsPerOne : Nat := 1 <<< 1074

/-- The quotient rounded to the nearest integer, a tie to the even neighbour. -/
def roundDiv (num den : Nat) : Nat :=
  let q := num / den
  let r := num % den
  if 2 * r < den then q
  else if den < 2 * r then q + 1
  else if q % 2 = 0 then q else q + 1

/-- The word whose magnitude is nearest to `num / den` units; a tie goes to the
even word. The quotient is rounded to 53 bits, or to a whole number of units if
it has fewer; a carry out of the 53 bits lands on the next exponent. -/
def nearestWord (num den : Nat) : Nat :=
  let shift := Nat.log2 (num / den) - 52
  shift * binade + roundDiv num (den <<< shift)

/-- The double nearest to the fraction `num / den`, if it is finite. -/
def ofFraction? (negative : Bool) (num den : Nat) : Option Binary64 :=
  let word := nearestWord (num * unitsPerOne) den
  if h : word < limit then some ⟨negative, word, h⟩ else none

/-- The double nearest to an integer, if it is finite. -/
def ofInt? (n : Int) : Option Binary64 := ofFraction? (n < 0) n.natAbs 1

/-- The zero of a sign. -/
def zero (negative : Bool) : Binary64 := ⟨negative, 0, by decide⟩

/-- The magnitude in units. -/
def magnitude (d : Binary64) : Nat := units d.word

/-- The exact value, if it is an integer. -/
def toInt? (d : Binary64) : Option Int :=
  if d.magnitude % unitsPerOne = 0 then
    let n : Nat := d.magnitude / unitsPerOne
    some (if d.negative then -(n : Int) else n)
  else none

end Binary64

end RecordTyping
