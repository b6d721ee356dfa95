import RecordTyping.Json.Value
import RecordTyping.Number.Shortest

/-!
# Writing JSON

The compact form has no blanks; the pretty form has one item or member a line,
two blanks deeper than its container. Strings escape the quotation mark, the
backslash and the control characters below U+0020, and nothing else.
-/

namespace RecordTyping.Json

/-- The lower-case hexadecimal digits of a number, the last `width` of them. -/
def hexDigits : Nat → Nat → List Char
  | 0, _ => []
  | width + 1, n => hexDigits width (n / 16) ++ [Nat.digitChar (n % 16)]

/-- A character inside a string. -/
def escapeChar (c : Char) : List Char :=
  if c = '"' then ['\\', '"']
  else if c = '\\' then ['\\', '\\']
  else if c.toNat = 0x08 then ['\\', 'b']
  else if c.toNat = 0x0C then ['\\', 'f']
  else if c = '\n' then ['\\', 'n']
  else if c = '\r' then ['\\', 'r']
  else if c = '\t' then ['\\', 't']
  else if c.toNat < 0x20 then ['\\', 'u'] ++ hexDigits 4 c.toNat
  else [c]

/-- A string between its quotation marks. -/
def renderString (s : String) : String :=
  String.ofList ('"' :: s.toList.flatMap escapeChar ++ ['"'])

/-- Where the digits of a double are written positionally: from 10 to the power -5 to below 10 to
the power 16, always with a digit after the point. Elsewhere one digit stands before the point, and
the power of ten has a sign and no point without digits after it. -/
def layoutDigits (digits : List Char) (order : Int) : List Char :=
  let count : Nat := digits.length
  if 0 < order ∧ order ≤ 16 then
    let places := order.toNat
    if count ≤ places then digits ++ List.replicate (places - count) '0' ++ ['.', '0']
    else digits.take places ++ '.' :: digits.drop places
  else if -5 < order ∧ order ≤ 0 then
    ['0', '.'] ++ List.replicate (-order).toNat '0' ++ digits
  else
    let power := order - 1
    let mantissa := match digits with
      | [d] => [d]
      | d :: rest => d :: '.' :: rest
      | [] => []
    mantissa ++ ['e', if power < 0 then '-' else '+'] ++ Nat.toDigits 10 power.natAbs

/-- The shortest decimal that reads back as the same double. -/
def renderDouble (d : Binary64) : String :=
  let body :=
    if d.word = 0 then ['0', '.', '0']
    else
      let (coefficient, exponent) := Binary64.shortest d.word
      let digits := Nat.toDigits 10 coefficient
      layoutDigits digits (exponent + digits.length)
  String.ofList (if d.negative then '-' :: body else body)

mutual

/-- The compact form of a value. -/
def Value.render : Value → String
  | .null => "null"
  | .bool b => if b then "true" else "false"
  | .integer n => Text.intNumeral n.val
  | .double d => renderDouble d
  | .string s => renderString s
  | .array items => "[" ++ renderItems items ++ "]"
  | .object members => "\x7b" ++ renderMembers members ++ "\x7d"

/-- The items of an array with a comma between them. -/
def renderItems : List Value → String
  | [] => ""
  | [v] => v.render
  | v :: rest => v.render ++ "," ++ renderItems rest

/-- The members of an object with a comma between them. -/
def renderMembers : List (String × Value) → String
  | [] => ""
  | [(k, v)] => renderString k ++ ":" ++ v.render
  | (k, v) :: rest => renderString k ++ ":" ++ v.render ++ "," ++ renderMembers rest

end

/-- The blanks before a line of a given depth. -/
def indentation (depth : Nat) : String := String.ofList (List.replicate (2 * depth) ' ')

mutual

/-- The pretty form of a value whose first line is already placed at the given depth. -/
def Value.prettyAt (depth : Nat) : Value → String
  | .array [] => "[]"
  | .array (v :: rest) =>
    "[\n" ++ prettyItems (depth + 1) (v :: rest) ++ "\n" ++ indentation depth ++ "]"
  | .object [] => "\x7b\x7d"
  | .object (m :: rest) =>
    "\x7b\n" ++ prettyMembers (depth + 1) (m :: rest) ++ "\n" ++ indentation depth ++ "\x7d"
  | .null => "null"
  | .bool b => if b then "true" else "false"
  | .integer n => Text.intNumeral n.val
  | .double d => renderDouble d
  | .string s => renderString s

/-- The items of an array, one a line. -/
def prettyItems (depth : Nat) : List Value → String
  | [] => ""
  | [v] => indentation depth ++ v.prettyAt depth
  | v :: rest => indentation depth ++ v.prettyAt depth ++ ",\n" ++ prettyItems depth rest

/-- The members of an object, one a line. -/
def prettyMembers (depth : Nat) : List (String × Value) → String
  | [] => ""
  | [(k, v)] => indentation depth ++ renderString k ++ ": " ++ v.prettyAt depth
  | (k, v) :: rest =>
    indentation depth ++ renderString k ++ ": " ++ v.prettyAt depth ++ ",\n" ++
      prettyMembers depth rest

end

/-- The pretty form of a value. -/
def Value.pretty (v : Value) : String := v.prettyAt 0

end RecordTyping.Json
