import RecordTyping.Calendar.DateTime
import RecordTyping.Text.Blank

/-!
# Reading dates and times

Two grammars. The strict one is that of RFC 3339: every number has its full number of
digits and the offset from universal time is given. The lenient one reads a date, or a
date and a time without offset: a number may have fewer digits and blanks before it, and
the year may have a sign and then any number of digits. It says at which fault it stopped.
-/

namespace RecordTyping.Calendar

/-- Why a text is no date or time. -/
inductive Fault where
  | badCharacter
  | outOfRange
  | tooShort
  | trailing
deriving DecidableEq, Repr

/-- The wording of a fault. -/
def Fault.message : Fault → String
  | .badCharacter => "input contains invalid characters"
  | .outOfRange => "input is out of range"
  | .tooShort => "premature end of input"
  | .trailing => "trailing input"

/-- The earliest and the latest year that are read. -/
def minYear : Int := -262143

/-- The latest year that is read. -/
def maxYear : Int := 262142

/-- The largest number that is read at all. -/
def maxNumber : Nat := 0x7FFFFFFFFFFFFFFF

/-- Takes the leading digits off the front, at least one and at most `limit`. -/
def readNumber (limit : Nat) (s : List Char) : Except Fault (Nat × List Char) :=
  let digits := (s.take limit).takeWhile Char.isDigit
  if s.isEmpty then .error .tooShort
  else if digits.isEmpty then .error .badCharacter
  else if maxNumber < Text.digitsValue digits then .error .outOfRange
  else .ok (Text.digitsValue digits, s.drop digits.length)

/-- Takes a number of a range off the front, with blanks before it. -/
def readPart (limit low high : Nat) (s : List Char) : Except Fault (Nat × List Char) := do
  let (n, rest) ← readNumber limit (Text.trimStart s)
  if low ≤ n ∧ n ≤ high then return (n, rest) else .error .outOfRange

/-- Takes a year off the front, with blanks before it: up to four digits, or a sign and any number
of them. A year must fit in 32 bits to be looked at further. -/
def readYear (s : List Char) : Except Fault (Int × List Char) := do
  let (year, rest) ← match Text.trimStart s with
    | '-' :: rest => (readNumber rest.length rest).map fun (n, rest) => (-(n : Int), rest)
    | '+' :: rest => (readNumber rest.length rest).map fun (n, rest) => ((n : Int), rest)
    | rest => (readNumber 4 rest).map fun (n, rest) => ((n : Int), rest)
  if -0x80000000 ≤ year ∧ year < 0x80000000 then return (year, rest) else .error .outOfRange

/-- Takes a separator off the front. -/
def expect (c : Char) : List Char → Except Fault (List Char)
  | [] => .error .tooShort
  | a :: rest => if a = c then .ok rest else .error .badCharacter

/-- Year, month and day as they are written. -/
structure DateParts where
  year : Int
  month : Nat
  day : Nat

/-- Takes the parts of a date off the front. -/
def readDateParts (s : List Char) : Except Fault (DateParts × List Char) := do
  let (year, s) ← readYear s
  let s ← expect '-' s
  let (month, s) ← readPart 2 1 12 s
  let s ← expect '-' s
  let (day, s) ← readPart 2 1 31 s
  return (⟨year, month, day⟩, s)

/-- The day that the parts of a date name. -/
def DateParts.resolve (p : DateParts) : Except Fault Date :=
  if minYear ≤ p.year ∧ p.year ≤ maxYear then
    match Date.ofParts? p.year p.month p.day with
    | some d => .ok d
    | none => .error .outOfRange
  else .error .outOfRange

/-- A text must end here. -/
def expectEnd : List Char → Except Fault Unit
  | [] => .ok ()
  | _ => .error .trailing

/-- Reads a date. Only a text that is read to its end is checked against the calendar. -/
def readDate (s : List Char) : Except Fault Date := do
  let (parts, rest) ← readDateParts s
  expectEnd rest
  parts.resolve

/-- Reads a date and a time without offset, with any blanks or none between the two. -/
def readLocal (s : List Char) : Except Fault DateTime := do
  let (parts, s) ← readDateParts s
  let (hour, s) ← readPart 2 0 23 (Text.trimStart s)
  let s ← expect ':' s
  let (minute, s) ← readPart 2 0 59 s
  let s ← expect ':' s
  let (second, s) ← readPart 2 0 60 s
  expectEnd s
  let date ← parts.resolve
  match Time.ofParts? hour minute second with
  | some time => return ⟨date, time⟩
  | none => .error .outOfRange

/-- Takes exactly `count` digits off the front. -/
def fixedNumber? (count : Nat) (s : List Char) : Option (Nat × List Char) :=
  let digits := s.take count
  if digits.length = count && digits.all Char.isDigit then
    some (Text.digitsValue digits, s.drop count)
  else none

/-- Takes a separator off the front. -/
def separator? (c : Char) : List Char → Option (List Char)
  | [] => none
  | a :: rest => if a = c then some rest else none

/-- Takes the mark between a date and a time off the front: the letter T or a space. -/
def timeMark? : List Char → Option (List Char)
  | [] => none
  | a :: rest => if a = 'T' ∨ a = 't' ∨ a = ' ' then some rest else none

/-- Takes a fraction of a second off the front, if there is one; it is dropped. -/
def skipFraction? (s : List Char) : Option (List Char) :=
  match s with
  | '.' :: rest =>
    if (rest.takeWhile Char.isDigit).isEmpty then none else some (rest.dropWhile Char.isDigit)
  | rest => some rest

/-- Reads the offset with which a text ends, in minutes. The minus sign U+2212 stands for
a hyphen. -/
def readOffset? (s : List Char) : Option Int :=
  match s with
  | ['Z'] => some 0
  | ['z'] => some 0
  | sign :: rest => do
    let minus ← if sign = '+' then some false
      else if sign = '-' ∨ sign.toNat = 0x2212 then some true
      else none
    let (hours, rest) ← fixedNumber? 2 rest
    let rest ← separator? ':' rest
    let (minutes, rest) ← fixedNumber? 2 rest
    if rest.isEmpty && hours < 24 && minutes < 60 then
      let offset : Nat := hours * 60 + minutes
      some (if minus then -(offset : Int) else offset)
    else none
  | [] => none

/-- Reads the strict form: a local time and its offset in minutes. -/
def readOffsetTime? (s : List Char) : Option (DateTime × Int) := do
  let (year, s) ← fixedNumber? 4 s
  let s ← separator? '-' s
  let (month, s) ← fixedNumber? 2 s
  let s ← separator? '-' s
  let (day, s) ← fixedNumber? 2 s
  let s ← timeMark? s
  let (hour, s) ← fixedNumber? 2 s
  let s ← separator? ':' s
  let (minute, s) ← fixedNumber? 2 s
  let s ← separator? ':' s
  let (second, s) ← fixedNumber? 2 s
  let s ← skipFraction? s
  let offset ← readOffset? s
  let date ← Date.ofParts? year month day
  let time ← Time.ofParts? hour minute second
  return (⟨date, time⟩, offset)

/-- Reads a point in universal time: the strict form first, and else a local time that is taken
as universal. The fault is that of the second form. -/
def readUniversal (s : List Char) : Except Fault DateTime :=
  match readOffsetTime? s with
  | some (t, offset) => .ok (t.universal offset)
  | none => readLocal s

end RecordTyping.Calendar
