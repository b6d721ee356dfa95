import RecordTyping.Json.Writer
import RecordTyping.Shape

/-!
# Reading JSON

A reader takes a value off the front of a text and returns it with what is left. A text
that ends where a value, a bracket or a quotation mark is still due is truncated, any other
text that is not JSON is malformed, and a well-formed value that is not what the reader
asked for has the wrong shape. Errors are found in the order of the text, so a value of the
wrong shape is reported even if the text after it is malformed.

Containers may be nested up to an allowance that the reader carries along. `Value.read`
keeps the members of objects as they are written, in order and with repetitions.
-/

namespace RecordTyping.Json

/-- How many containers may be nested in one another. -/
def nestingAllowance : Nat := 127

/-- Why a text could not be read. -/
inductive ReadError where
  /-- The text is not JSON, has more after the value, or exceeds a limit. -/
  | malformed
  /-- The text ends early. -/
  | truncated
  /-- The text is JSON, but its value is not of the shape asked for. -/
  | shape (e : ShapeError)
deriving DecidableEq, Repr

/-- A reader takes a value off the front of a text. -/
abbrev Reader (α : Type) : Type := List Char → Except ReadError (α × List Char)

/-- The error at a place where nothing of what may follow does. -/
def fault : List Char → ReadError
  | [] => .truncated
  | _ => .malformed

/-- The blanks of JSON: space, tab, line feed and carriage return. -/
def isBlank (c : Char) : Bool := c = ' ' || c = '\t' || c = '\n' || c = '\r'

/-- What is left after leading blanks. -/
def skipBlanks (s : List Char) : List Char := s.dropWhile isBlank

/-- Takes a fixed word off the front. -/
def expectWord : List Char → List Char → Except ReadError (List Char)
  | [], rest => .ok rest
  | _ :: _, [] => .error .truncated
  | w :: word, c :: rest => if c = w then expectWord word rest else .error .malformed

/-- The error of a text of fewer than four characters where four hexadecimal digits are
due: it counts as truncated unless it fills four bytes. -/
def shortHexFault (s : List Char) : ReadError :=
  if 4 ≤ (String.ofList s).utf8ByteSize then .malformed else .truncated

/-- The character of a one-letter escape. -/
def escaped? (c : Char) : Option Char :=
  if c = '"' then some '"'
  else if c = '\\' then some '\\'
  else if c = '/' then some '/'
  else if c = 'b' then some (Char.ofNat 0x08)
  else if c = 'f' then some (Char.ofNat 0x0C)
  else if c = 'n' then some '\n'
  else if c = 'r' then some '\r'
  else if c = 't' then some '\t'
  else none

/-- The error of a text that follows a leading surrogate without the start of an escape. -/
def pairFault : List Char → ReadError
  | [] => .truncated
  | ['\\'] => .truncated
  | '\\' :: 'u' :: short => shortHexFault short
  | _ => .malformed

/-- Puts a character before the text that a reader of strings returns. -/
def consChar (c : Char) (r : Except ReadError (List Char × List Char)) :
    Except ReadError (List Char × List Char) :=
  r.map fun (s, rest) => (c :: s, rest)

/-- Reads a string up to its closing quotation mark. A `strict` reader wants surrogate
escapes in pairs; another lets them stand for any character. -/
def readString (strict : Bool) : Reader (List Char)
  | [] => .error .truncated
  | '"' :: rest => .ok ([], rest)
  | ['\\'] => .error .truncated
  | '\\' :: 'u' :: a :: b :: c :: d :: rest =>
    match Text.hexValue? [a, b, c, d] with
    | none => .error .malformed
    | some n =>
      if !strict then consChar (Char.ofNat n) (readString strict rest)
      else if 0xDC00 ≤ n ∧ n ≤ 0xDFFF then .error .malformed
      else if 0xD800 ≤ n ∧ n ≤ 0xDBFF then
        match rest with
        | '\\' :: 'u' :: e :: f :: g :: h :: rest =>
          match Text.hexValue? [e, f, g, h] with
          | none => .error .malformed
          | some m =>
            if 0xDC00 ≤ m ∧ m ≤ 0xDFFF then
              consChar (Char.ofNat (0x10000 + (n - 0xD800) * 0x400 + (m - 0xDC00)))
                (readString strict rest)
            else .error .malformed
        | rest => .error (pairFault rest)
      else consChar (Char.ofNat n) (readString strict rest)
  | '\\' :: 'u' :: short => .error (shortHexFault short)
  | '\\' :: c :: rest =>
    match escaped? c with
    | some e => consChar e (readString strict rest)
    | none => .error .malformed
  | c :: rest =>
    if c.toNat < 0x20 then .error .malformed else consChar c (readString strict rest)

/-- A number as it is written. -/
structure NumberText where
  negative : Bool
  whole : List Char
  fraction : Option (List Char)
  exponent : Option (Bool × List Char)

/-- Takes digits off the front, at least one. -/
def readDigits (s : List Char) : Except ReadError (List Char × List Char) :=
  let digits := s.takeWhile Char.isDigit
  if digits.isEmpty then .error (fault s) else .ok (digits, s.dropWhile Char.isDigit)

/-- Takes the whole part of a number off the front: zero, or digits that start with another. -/
def readWhole (s : List Char) : Except ReadError (List Char × List Char) :=
  match s with
  | '0' :: c :: rest => if c.isDigit then .error .malformed else .ok (['0'], c :: rest)
  | ['0'] => .ok (['0'], [])
  | s => readDigits s

/-- Takes the part after the point of a number off the front, if there is a point. -/
def readFraction (s : List Char) : Except ReadError (Option (List Char) × List Char) :=
  match s with
  | '.' :: rest => (readDigits rest).map fun (digits, rest) => (some digits, rest)
  | rest => .ok (none, rest)

/-- Takes the power of ten of a number off the front, if there is one. -/
def readPower (s : List Char) : Except ReadError (Option (Bool × List Char) × List Char) :=
  match s with
  | [] => .ok (none, [])
  | c :: rest =>
    if c = 'e' ∨ c = 'E' then
      match rest with
      | '-' :: rest => (readDigits rest).map fun (digits, rest) => (some (true, digits), rest)
      | '+' :: rest => (readDigits rest).map fun (digits, rest) => (some (false, digits), rest)
      | rest => (readDigits rest).map fun (digits, rest) => (some (false, digits), rest)
    else .ok (none, c :: rest)

/-- Takes a number without its sign off the front. -/
def readUnsigned (negative : Bool) : Reader NumberText := fun s => do
  let (whole, s) ← readWhole s
  let (fraction, s) ← readFraction s
  let (exponent, s) ← readPower s
  return (⟨negative, whole, fraction, exponent⟩, s)

/-- Takes a number off the front. -/
def readNumberText : Reader NumberText
  | '-' :: rest => readUnsigned true rest
  | s => readUnsigned false s

/-- The value of a number, if it is in range. A literal without point and power is an
integer if it is in the integers' range, but minus zero is a double, as is every other number. -/
def NumberText.value? (t : NumberText) : Option Value :=
  match t.fraction, t.exponent with
  | none, none =>
    let n : Int := Text.digitsValue t.whole
    if t.negative && n = 0 then some (.double (Binary64.zero true))
    else
      match Integer.ofInt? (if t.negative then -n else n) with
      | some i => some (.integer i)
      | none => (Decimal.toBinary64? ⟨t.negative, n.natAbs, 0⟩).map .double
  | fraction, exponent =>
    let power : Int := match exponent with
      | none => 0
      | some (minus, digits) =>
        if minus then -(Text.digitsValue digits : Int) else Text.digitsValue digits
    (Decimal.ofDigits t.negative t.whole (fraction.getD []) power).toBinary64?.map .double

/-- Takes a number off the front. Only a `strict` reader minds a number that is out of range. -/
def readNumber (strict : Bool) : Reader Value := fun s => do
  let (t, rest) ← readNumberText s
  match t.value? with
  | some v => return (v, rest)
  | none => if strict then .error .malformed else return (.null, rest)

/-- Takes the colon between a key and its value off the front. -/
def expectColon (s : List Char) : Except ReadError (List Char) :=
  match skipBlanks s with
  | ':' :: rest => .ok rest
  | rest => .error (fault rest)

/-- Takes the quotation mark of a key off the front. -/
def expectKey (s : List Char) : Except ReadError (List Char) :=
  match skipBlanks s with
  | '"' :: rest => .ok rest
  | rest => .error (fault rest)

mutual

/-- Takes a value off the front. Every two steps of the recursion take a character, so
that twice the length of the text is fuel enough. -/
def readValue (strict : Bool) : Nat → Nat → Reader Value
  | 0, _, _ => .error .malformed
  | fuel + 1, depth, s =>
    match skipBlanks s with
    | [] => .error .truncated
    | 'n' :: rest => (expectWord ['u', 'l', 'l'] rest).map fun rest => (.null, rest)
    | 't' :: rest => (expectWord ['r', 'u', 'e'] rest).map fun rest => (.bool true, rest)
    | 'f' :: rest => (expectWord ['a', 'l', 's', 'e'] rest).map fun rest => (.bool false, rest)
    | '"' :: rest =>
      (readString strict rest).map fun (s, rest) => (.string (String.ofList s), rest)
    | '[' :: rest =>
      match depth with
      | 0 => .error .malformed
      | depth + 1 =>
        match skipBlanks rest with
        | ']' :: rest => .ok (.array [], rest)
        | rest =>
          (readItems strict fuel depth rest).map fun (items, rest) => (.array items, rest)
    | '{' :: rest =>
      match depth with
      | 0 => .error .malformed
      | depth + 1 =>
        match skipBlanks rest with
        | '}' :: rest => .ok (.object [], rest)
        | rest =>
          (readMembers strict fuel depth rest).map fun (members, rest) =>
            (.object members, rest)
    | c :: rest =>
      if c = '-' ∨ c.isDigit then readNumber strict (c :: rest) else .error .malformed

/-- Takes items off the front, at least one, and the bracket that closes them. -/
def readItems (strict : Bool) : Nat → Nat → Reader (List Value)
  | 0, _, _ => .error .malformed
  | fuel + 1, depth, s => do
    let (v, rest) ← readValue strict fuel depth s
    match skipBlanks rest with
    | ',' :: rest =>
      let (items, rest) ← readItems strict fuel depth rest
      return (v :: items, rest)
    | ']' :: rest => return ([v], rest)
    | rest => .error (fault rest)

/-- Takes members off the front, at least one, and the brace that closes them. -/
def readMembers (strict : Bool) : Nat → Nat → Reader (List (String × Value))
  | 0, _, _ => .error .malformed
  | fuel + 1, depth, s => do
    let rest ← expectKey s
    let (key, rest) ← readString strict rest
    let rest ← expectColon rest
    let (v, rest) ← readValue strict fuel depth rest
    let key := String.ofList key
    match skipBlanks rest with
    | ',' :: rest =>
      let (members, rest) ← readMembers strict fuel depth rest
      return ((key, v) :: members, rest)
    | '}' :: rest => return ([(key, v)], rest)
    | rest => .error (fault rest)

end

/-- Takes a value off the front, its objects as they are written. -/
def Value.reader (depth : Nat) : Reader Value := fun s => readValue true (2 * s.length + 2) depth s

/-- Takes a free-form value off the front. -/
def Value.sortedReader (depth : Nat) : Reader Value := fun s =>
  (Value.reader depth s).map fun (v, rest) => (v.sorted, rest)

/-- Takes a value off the front that nobody asked for: it may be nested to any depth, and
its numbers and surrogates are not looked at. -/
def skipValue : Reader Unit := fun s =>
  (readValue false (2 * s.length + 2) s.length s).map fun (_, rest) => ((), rest)

/-- Reads a whole text. -/
def readAll {α : Type} (reader : Reader α) (s : String) : Except ReadError α := do
  let (v, rest) ← reader s.toList
  if (skipBlanks rest).isEmpty then return v else .error .malformed

/-- The value of a text, its objects as they are written. -/
def Value.read (s : String) : Except ReadError Value :=
  readAll (Value.reader nestingAllowance) s

/-- The free-form value of a text. -/
def Value.readSorted (s : String) : Except ReadError Value :=
  readAll (Value.sortedReader nestingAllowance) s

end RecordTyping.Json
