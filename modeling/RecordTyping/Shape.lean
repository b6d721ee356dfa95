import RecordTyping.Text.Numeral
import RecordTyping.Text.Quoted

/-!
# Values of the wrong shape

What a reader of structured data says when a well-formed value is not of the shape it
asked for: what it found, what it wanted, or which key is missing or repeated.
-/

namespace RecordTyping

/-- What a reader found in place of what it wanted. -/
inductive Found where
  | null
  | boolean (b : Bool)
  | integer (n : Int)
  /-- An integer outside the ranges of 64-bit words, with the name of a range that it is in. -/
  | wideInteger (n : Int) (range : String)
  /-- A double, with the text in which the format writes it. -/
  | floating (text : String)
  | string (s : String)
  | sequence
  | map
  /-- A choice that was given by its bare name. -/
  | bareChoice
deriving DecidableEq, Repr

/-- The wording of what was found. -/
def Found.describe : Found → String
  | .null => "null"
  | .boolean true => "boolean `true`"
  | .boolean false => "boolean `false`"
  | .integer n => "integer `" ++ Text.intNumeral n ++ "`"
  | .wideInteger n range => "integer `" ++ Text.intNumeral n ++ "` as " ++ range
  | .floating text => "floating point `" ++ text ++ "`"
  | .string s => "string " ++ Text.quoted s
  | .sequence => "sequence"
  | .map => "map"
  | .bareChoice => "unit variant"

/-- Why a well-formed value has not the shape that was asked for. -/
inductive ShapeError where
  | invalidType (found : Found) (expected : String)
  | invalidValue (found : Found) (expected : String)
  | invalidLength (found : Nat) (expected : String)
  | unknownChoice (name : String) (known : List String)
  | missingField (name : String)
  | duplicateField (name : String)
  /-- A choice was to be given by its name or by a table of one entry. -/
  | notAChoice
  /-- A table that gives a choice has no entry, or more than one. -/
  | choiceEntries (several : Bool)
  /-- The entry of a choice that takes no value holds a container with something in it. -/
  | choiceWithValue (container : String)
  /-- The entry of a choice that takes no value holds a value of another type. -/
  | choiceWithScalar (type : String)
  | integerTooLarge
  | floatTooLarge
  /-- Whatever else is wrong, in the words of the type that was to be built. -/
  | custom (message : String)
deriving DecidableEq, Repr

/-- The names of the choices that exist. -/
def listChoices (known : List String) : String :=
  match known.map fun name => "`" ++ name ++ "`" with
  | [] => "there are no variants"
  | [a] => "expected " ++ a
  | [a, b] => "expected " ++ a ++ " or " ++ b
  | names => "expected one of " ++ ", ".intercalate names

/-- The wording of a shape error. -/
def ShapeError.message : ShapeError → String
  | .invalidType found expected =>
    "invalid type: " ++ found.describe ++ ", expected " ++ expected
  | .invalidValue found expected =>
    "invalid value: " ++ found.describe ++ ", expected " ++ expected
  | .invalidLength found expected =>
    "invalid length " ++ Text.natNumeral found ++ ", expected " ++ expected
  | .unknownChoice name known => "unknown variant `" ++ name ++ "`, " ++ listChoices known
  | .missingField name => "missing field `" ++ name ++ "`"
  | .duplicateField name => "duplicate field `" ++ name ++ "`"
  | .notAChoice => "wanted string or table"
  | .choiceEntries false => "wanted exactly 1 element, found 0 elements"
  | .choiceEntries true => "wanted exactly 1 element, more than 1 element"
  | .choiceWithValue container => "expected empty " ++ container
  | .choiceWithScalar type => "expected table, found " ++ type
  | .integerTooLarge => "integer number overflowed"
  | .floatTooLarge => "floating-point number overflowed"
  | .custom message => message

end RecordTyping
