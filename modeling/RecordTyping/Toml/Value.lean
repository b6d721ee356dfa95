import RecordTyping.Number.Shortest
import RecordTyping.Shape

/-!
# TOML values

Integers are of any size and floats of any magnitude: whether they are in a range is judged
where they are read. A table remembers how it came to be, and an array whether its tables stand
under headers, because that decides what may still be added to them.
-/

namespace RecordTyping.Toml

/-- A number with a point or a power of ten, or one of the special numbers. -/
inductive FloatValue where
  | finite (d : Binary64)
  /-- A number to which no finite double is nearest. -/
  | tooLarge
  | infinite (negative : Bool)
  | notANumber
deriving DecidableEq

/-- How a table came to be. -/
inductive TableForm where
  /-- It is the document or has a header of its own. -/
  | headed
  /-- It holds a table that has a header. -/
  | implied
  /-- A dotted key goes through it. -/
  | dotted
  /-- It is written in braces. -/
  | braced
  /-- A dotted key in braces goes through it. -/
  | dottedInBraces
deriving DecidableEq, Repr

/-- A TOML value. -/
inductive Value where
  | string (s : String)
  | integer (n : Int)
  | float (f : FloatValue)
  | boolean (b : Bool)
  /-- A date, a time of day or both, as it is written. -/
  | moment (text : String)
  | array (underHeaders : Bool) (items : List Value)
  | table (form : TableForm) (members : List (String × Value))

namespace FloatValue

/-- What a float is called when it is not what was asked for. -/
def found : FloatValue → Except ShapeError Found
  | .finite d => .ok (.floating d.plain)
  | .tooLarge => .error .floatTooLarge
  | .infinite negative => .ok (.floating (if negative then "-inf" else "inf"))
  | .notANumber => .ok (.floating "NaN")

end FloatValue

namespace Value

/-- The number of integers that 128 bits tell apart. -/
def wideCount : Int := 0x100000000000000000000000000000000

/-- What an integer is called: those outside the ranges of 64-bit words are called by a wider
one, and those outside the ranges of 128-bit words cannot be read. -/
def foundInteger (n : Int) : Except ShapeError Found :=
  if -0x8000000000000000 ≤ n ∧ n < 0x10000000000000000 then .ok (.integer n)
  else if -wideCount ≤ 2 * n ∧ 2 * n < wideCount then .ok (.wideInteger n "i128")
  else if 0 ≤ n ∧ n < wideCount then .ok (.wideInteger n "u128")
  else .error .integerTooLarge

/-- What a value is called when it is not what was asked for. A number that is out of every range is
an error of its own. -/
def found : Value → Except ShapeError Found
  | .string s => .ok (.string s)
  | .integer n => foundInteger n
  | .float f => f.found
  | .boolean b => .ok (.boolean b)
  | .moment _ => .ok .map
  | .array .. => .ok .sequence
  | .table .. => .ok .map

/-- The name of the type of a value. -/
def typeName : Value → String
  | .string _ => "string"
  | .integer _ => "integer"
  | .float _ => "float"
  | .boolean _ => "boolean"
  | .moment _ => "datetime"
  | .array .. => "array"
  | .table .. => "table"

end Value

end RecordTyping.Toml
