import RecordTyping.Number.Decimal

/-!
# The shortest decimal that reads back

The reals that round to a double form an interval around it, which holds its ends
exactly if the word is even. Of all decimals in that interval the text of a double
is the one with the fewest digits, and of those the nearest. For a given number of
digits only the two neighbours of the value on that decimal grid can be in the
interval, if any point of the grid is, so they are all that is tried. The plain form of a double
has these digits without a power of ten and always with a point.
-/

namespace RecordTyping

namespace Binary64

/-- The least power of ten above a positive magnitude of `n` units. -/
def decimalOrder (n : Nat) : Int :=
  (Decimal.digitCount (n * Nat.pow 10 343 / unitsPerOne) : Int) - 343

/-- The interval of the reals that round to a word, in half units, and whether its ends
belong to it. -/
def roundingInterval (word : Nat) : Nat × Nat × Bool :=
  (units (word - 1) + units word, units word + units (word + 1), word % 2 = 0)

/-- `10 ^ e` as a fraction. -/
def tenPower (e : Int) : Nat × Nat :=
  match e with
  | .ofNat n => (Nat.pow 10 n, 1)
  | .negSucc n => (1, Nat.pow 10 (n + 1))

/-- The multiple of `10 ^ e` that stands for the word, if one of the two neighbours of its magnitude
rounds to it. Of two that do the nearer is taken, and of two that are as near the even one. -/
def onGrid? (word : Nat) (e : Int) : Option Nat :=
  let (low, high, closed) := roundingInterval word
  let (num, den) := tenPower e
  -- half units are scaled by `den`, and a grid step is `step` of them
  let step := num * (2 * unitsPerOne)
  let value := 2 * units word * den
  let inside (k : Nat) : Bool :=
    let x := k * step
    if closed then low * den ≤ x && x ≤ high * den else low * den < x && x < high * den
  let below := value / step
  let rest := value % step
  match inside below, inside (below + 1) with
  | false, false => none
  | true, false => some below
  | false, true => some (below + 1)
  | true, true =>
    if 2 * rest < step then some below
    else if step < 2 * rest then some (below + 1)
    else some (if below % 2 = 0 then below else below + 1)

/-- The first grid with a hit, from `digits` digits on, for at most `tries` grids. -/
def shortestFrom (word : Nat) (order : Int) : Nat → Nat → Nat × Int
  | _, 0 => (0, 0)
  | digits, tries + 1 =>
    let e := order - digits
    match onGrid? word e with
    | some k => (k, e)
    | none => shortestFrom word order (digits + 1) tries

/-- Removes the zeros at the end of a coefficient, at most `fuel` of them. -/
def dropZeros : Nat → Nat → Int → Nat × Int
  | 0, k, e => (k, e)
  | fuel + 1, k, e => if k % 10 = 0 then dropZeros fuel (k / 10) (e + 1) else (k, e)

/-- The coefficient and exponent of the shortest decimal of a positive word. Seventeen
digits always suffice. -/
def shortest (word : Nat) : Nat × Int :=
  let (k, e) := shortestFrom word (decimalOrder (units word)) 1 17
  dropZeros 18 k e

/-- The digits of a positive magnitude, `coefficient * 10 ^ exponent`, with a point among them. -/
def plainDigits (coefficient : Nat) (exponent : Int) : List Char :=
  let digits := Nat.toDigits 10 coefficient
  match exponent with
  | .ofNat zeros => digits ++ List.replicate zeros '0' ++ ['.', '0']
  | .negSucc n =>
    let padded := List.replicate (n + 2 - digits.length) '0' ++ digits
    padded.take (padded.length - (n + 1)) ++ '.' :: padded.drop (padded.length - (n + 1))

/-- The plain form of a double. -/
def plain (d : Binary64) : String :=
  let body :=
    if d.word = 0 then ['0', '.', '0']
    else
      let (coefficient, exponent) := shortest d.word
      plainDigits coefficient exponent
  String.ofList (if d.negative then '-' :: body else body)

end Binary64

end RecordTyping
