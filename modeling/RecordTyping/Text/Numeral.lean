/-!
# Decimal numerals

Writing integers in base ten, and reading a signed base-ten numeral into an integer of a given
range. The first fault from the left is the one reported: a character that is no digit, or the digit
with which the value leaves the range.
-/

namespace RecordTyping.Text

/-- The value of an ASCII digit. -/
def digitValue? (c : Char) : Option Nat :=
  if c.isDigit then some (c.toNat - 48) else none

/-- The value of a run of digits; characters that are no digits count as zero. -/
def digitsValue (s : List Char) : Nat :=
  s.foldl (fun n c => 10 * n + (digitValue? c).getD 0) 0

/-- The value of hexadecimal digits. -/
def hexValue? (digits : List Char) : Option Nat :=
  digits.foldlM (fun n c =>
    if c.isDigit then some (16 * n + (c.toNat - 48))
    else if 'a' ≤ c ∧ c ≤ 'f' then some (16 * n + (c.toNat - 87))
    else if 'A' ≤ c ∧ c ≤ 'F' then some (16 * n + (c.toNat - 55))
    else none) 0

/-- The base-ten numeral of a natural number. -/
def natNumeral (n : Nat) : String := String.ofList (Nat.toDigits 10 n)

/-- The base-ten numeral of an integer, with a sign if it is negative. -/
def intNumeral (n : Int) : String :=
  match n with
  | .ofNat k => natNumeral k
  | .negSucc k => "-" ++ natNumeral (k + 1)

/-- Why a text is not a numeral of the range asked for. -/
inductive NumeralFault where
  | empty
  | badDigit
  | tooLarge
  | tooSmall
deriving DecidableEq, Repr

/-- The wording of a numeral fault. -/
def NumeralFault.message : NumeralFault → String
  | .empty => "cannot parse integer from empty string"
  | .badDigit => "invalid digit found in string"
  | .tooLarge => "number too large to fit in target type"
  | .tooSmall => "number too small to fit in target type"

/-- Reads the digits of a magnitude that may not exceed `bound`. -/
def readMagnitude (bound : Nat) (excess : NumeralFault) :
    Nat → List Char → Except NumeralFault Nat
  | n, [] => .ok n
  | n, c :: rest =>
    match digitValue? c with
    | none => .error .badDigit
    | some d =>
      let n := 10 * n + d
      if n ≤ bound then readMagnitude bound excess n rest else .error excess

/-- Reads an optional sign and digits as an integer from `-below` to `above`. A
minus sign is read only where negative values exist. -/
def readInteger (below above : Nat) (s : List Char) : Except NumeralFault Int :=
  match s with
  | [] => .error .empty
  | ['+'] => .error .badDigit
  | ['-'] => .error .badDigit
  | '+' :: digits => (readMagnitude above .tooLarge 0 digits).map Int.ofNat
  | '-' :: digits =>
    if below = 0 then .error .badDigit
    else (readMagnitude below .tooSmall 0 digits).map fun n => -(n : Int)
  | digits => (readMagnitude above .tooLarge 0 digits).map Int.ofNat

end RecordTyping.Text
