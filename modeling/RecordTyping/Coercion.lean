import RecordTyping.FieldType
import RecordTyping.Calendar.Reader

/-!
# Coercing values to field types

A value is converted to the declared type of its field, or refused with the type it
should have had, the value that was found and a reason. Nothing falls back to a default.
-/

namespace RecordTyping

/-- Why a value does not fit a type. -/
inductive CoercionReason where
  | notNilable
  | notIntegral
  | unsupported
  | numeral (fault : Text.NumeralFault)
  | notFinite
  | notBoolean
  | dateNotText
  | timestampNotText
  | calendar (fault : Calendar.Fault)
  | notArray
deriving DecidableEq, Repr

/-- The wording of a reason. -/
def CoercionReason.message : CoercionReason → String
  | .notNilable => "field is not nilable"
  | .notIntegral => "not an integral number"
  | .unsupported => "unsupported value"
  | .numeral fault => fault.message
  | .notFinite => "not a finite number"
  | .notBoolean => "not a boolean"
  | .dateNotText => "dates must be strings"
  | .timestampNotText => "timestamps must be strings"
  | .calendar fault => fault.message
  | .notArray => "not an array"

/-- A value that does not fit a type. -/
structure CoercionError where
  expected : FieldType
  found : Json.Value
  reason : CoercionReason

/-- The wording of a coercion error. -/
def CoercionError.message (e : CoercionError) : String :=
  "expected " ++ e.expected.text ++ ", got " ++ e.found.render ++ " (" ++ e.reason.message ++ ")"

namespace Coercion

open Json (Value)

/-- The text between the blanks at both ends of a string. -/
def core (s : String) : List Char := Text.trim s.toList

/-- The integer of an integral double whose magnitude is below 2 to the power 63. -/
def ofDouble (d : Binary64) : Except CoercionReason Value :=
  match d.toInt? with
  | some n =>
    if n.natAbs < 0x8000000000000000 then
      match Json.Integer.ofInt? n with
      | some i => .ok (.integer i)
      | none => .error .notIntegral
    else .error .notIntegral
  | none => .error .notIntegral

/-- The integer of a numeral in the range of signed 64-bit words. -/
def ofNumeral (s : List Char) : Except CoercionReason Value := do
  let n ← (Text.readInteger 0x8000000000000000 0x7FFFFFFFFFFFFFFF s).mapError .numeral
  match Json.Integer.ofInt? n with
  | some i => return .integer i
  | none => .error (.numeral .tooLarge)

/-- Integers stay, integral doubles and numerals become integers. -/
def toInteger : Value → Except CoercionReason Value
  | .integer n => .ok (.integer n)
  | .double d => ofDouble d
  | .string s => ofNumeral (core s)
  | _ => .error .unsupported

/-- The double nearest to a number or to the number that a string writes. -/
def nearestDouble? : Value → Option Double
  | .integer n => some (.ofInt n.val)
  | .double d => some (.finite d)
  | .string s => Double.read? (core s)
  | _ => none

/-- Numbers and texts of numbers become doubles, if these are finite. -/
def toFloat (v : Value) : Except CoercionReason Value :=
  match nearestDouble? v with
  | some d => if d.isFinite then .ok (.ofDouble d) else .error .notFinite
  | none => .error .notFinite

/-- Strings stay; numbers and truth values become their JSON text. -/
def toText : Value → Except CoercionReason Value
  | .string s => .ok (.string s)
  | .integer n => .ok (.string (Value.integer n).render)
  | .double d => .ok (.string (Value.double d).render)
  | .bool b => .ok (.string (Value.bool b).render)
  | _ => .error .unsupported

/-- The words for truth and falsehood, in lower case. -/
def truthWord? (s : List Char) : Option Bool :=
  let word := String.ofList (s.map Char.toLower)
  if word ∈ ["true", "t", "1", "yes"] then some true
  else if word ∈ ["false", "f", "0", "no"] then some false
  else none

/-- The truth value that a value stands for. -/
def truth? : Value → Option Bool
  | .bool b => some b
  | .string s => truthWord? (core s)
  | .integer n => if n.val = 1 then some true else if n.val = 0 then some false else none
  | _ => none

/-- Truth values stay; words and the integers one and zero become truth values. -/
def toBoolean (v : Value) : Except CoercionReason Value :=
  match truth? v with
  | some b => .ok (.bool b)
  | none => .error .notBoolean

/-- Texts of dates become their normal form. -/
def toDate : Value → Except CoercionReason Value
  | .string s =>
    match Calendar.readDate (core s) with
    | .ok d => .ok (.string (String.ofList d.text))
    | .error fault => .error (.calendar fault)
  | _ => .error .dateNotText

/-- Texts of points in time become the normal form of universal time. -/
def toDateTime : Value → Except CoercionReason Value
  | .string s =>
    match Calendar.readUniversal (core s) with
    | .ok d => .ok (.string (String.ofList d.text))
    | .error fault => .error (.calendar fault)
  | _ => .error .timestampNotText

/-- Converts a value other than null to a type that is not nilable, untyped or an array. -/
def convert : FieldType → Value → Except CoercionReason Value
  | .integer, v => toInteger v
  | .float, v => toFloat v
  | .string, v => toText v
  | .boolean, v => toBoolean v
  | .date, v => toDate v
  | .dateTime, v => toDateTime v
  | .untyped, v => .ok v
  | .nilable _, v => .ok v
  | .array _, _ => .error .notArray

end Coercion

/-- Converts a value to a type. Null is a value of untyped and nilable fields only, an array is
converted item by item up to its first error, and the error names the innermost type. -/
def coerce : FieldType → Json.Value → Except CoercionError Json.Value
  | .untyped, v => .ok v
  | .nilable _, .null => .ok .null
  | .nilable inner, v => coerce inner v
  | .array inner, .array items => (items.mapM (coerce inner)).map .array
  | ty, .null => .error ⟨ty, .null, .notNilable⟩
  | ty, v => (Coercion.convert ty v).mapError fun reason => ⟨ty, v, reason⟩

end RecordTyping
