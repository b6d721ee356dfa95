import RecordTyping.Number.Binary64
import RecordTyping.Text.Numeral

/-!
# Decimal fractions and the doubles nearest to them

A decimal is a sign, a coefficient and a power of ten. Decimals far outside the
range of the doubles are settled by their number of digits, so that no power of
ten larger than the format needs is ever computed.
-/

namespace RecordTyping

/-- The value `± coefficient * 10 ^ exponent`. -/
structure Decimal where
  negative : Bool
  coefficient : Nat
  exponent : Int
deriving DecidableEq, Repr

namespace Decimal

/-- The number of decimal digits, one for zero. -/
def digitCount (n : Nat) : Nat := (Nat.toDigits 10 n).length

/-- The nearest double, if it is finite. From 10 to the power 309 on no finite double
is nearest, and below 10 to the power -324 the nearest is zero. -/
def toBinary64? (d : Decimal) : Option Binary64 :=
  if d.coefficient = 0 then some (Binary64.zero d.negative)
  else
    let order := d.exponent + digitCount d.coefficient
    if 309 < order then none
    else if order < -323 then some (Binary64.zero d.negative)
    else
      match d.exponent with
      | .ofNat e => Binary64.ofFraction? d.negative (d.coefficient * Nat.pow 10 e) 1
      | .negSucc e => Binary64.ofFraction? d.negative d.coefficient (Nat.pow 10 (e + 1))

/-- The decimal of the digits before and after a point, and a power of ten. -/
def ofDigits (negative : Bool) (whole fraction : List Char) (exponent : Int) : Decimal :=
  ⟨negative, Text.digitsValue (whole ++ fraction), exponent - fraction.length⟩

/-- Reads the power of ten that may end a decimal; the text must end with it. -/
def readExponent? (s : List Char) : Option Int :=
  match s with
  | [] => some 0
  | c :: rest =>
    if c = 'e' ∨ c = 'E' then
      let (minus, digits) : Bool × List Char := match rest with
        | '+' :: digits => (false, digits)
        | '-' :: digits => (true, digits)
        | digits => (false, digits)
      if digits.isEmpty || !digits.all Char.isDigit then none
      else
        let n := Text.digitsValue digits
        some (if minus then -(n : Int) else n)
    else none

/-- Reads an unsigned decimal: digits, a point and more digits, and a power of ten, of
which only one digit on either side of the point must be there. -/
def readUnsigned? (negative : Bool) (s : List Char) : Option Decimal :=
  let whole := s.takeWhile Char.isDigit
  let (fraction, rest) : List Char × List Char := match s.dropWhile Char.isDigit with
    | '.' :: rest => (rest.takeWhile Char.isDigit, rest.dropWhile Char.isDigit)
    | rest => ([], rest)
  if whole.isEmpty && fraction.isEmpty then none
  else (readExponent? rest).map (ofDigits negative whole fraction)

/-- Reads a decimal with an optional sign. -/
def read? (s : List Char) : Option Decimal :=
  match s with
  | '+' :: rest => readUnsigned? false rest
  | '-' :: rest => readUnsigned? true rest
  | rest => readUnsigned? false rest

end Decimal

end RecordTyping
