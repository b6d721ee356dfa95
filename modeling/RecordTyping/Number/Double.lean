import RecordTyping.Number.Decimal

/-!
# Doubles of every kind

What a numeral reads as: the nearest finite double, or an infinity where no finite double is
nearest. The words for the infinities and for what is not a number are numerals too, in
letters of either case.
-/

namespace RecordTyping

/-- A double, which need not be finite. -/
inductive Double where
  | finite (d : Binary64)
  | infinite (negative : Bool)
  | notANumber
deriving DecidableEq

namespace Double

/-- Whether a double is neither infinite nor not a number. -/
def isFinite : Double → Bool
  | .finite _ => true
  | _ => false

/-- The double nearest to an integer. -/
def ofInt (n : Int) : Double :=
  match Binary64.ofInt? n with
  | some d => .finite d
  | none => .infinite (n < 0)

/-- The double nearest to a decimal. -/
def ofDecimal (d : Decimal) : Double :=
  match d.toBinary64? with
  | some nearest => .finite nearest
  | none => .infinite d.negative

/-- The double that a word without its sign stands for. -/
def ofWord? (negative : Bool) (s : List Char) : Option Double :=
  let word := String.ofList (s.map Char.toLower)
  if word ∈ ["inf", "infinity"] then some (.infinite negative)
  else if word = "nan" then some .notANumber
  else none

/-- Reads a word with an optional sign. -/
def readWord? (s : List Char) : Option Double :=
  match s with
  | '+' :: rest => ofWord? false rest
  | '-' :: rest => ofWord? true rest
  | rest => ofWord? false rest

/-- Reads a numeral: a decimal or a word. -/
def read? (s : List Char) : Option Double :=
  match Decimal.read? s with
  | some d => some (ofDecimal d)
  | none => readWord? s

end Double

end RecordTyping
