import RecordTyping.Calendar.Reader
import RecordTyping.Toml.Text
import RecordTyping.Toml.Value

/-!
# TOML scalars without marks

Truth values, numbers, dates and times of day are written without marks around them. Numbers may
have underscores between their digits. The seconds of a time of day may be left out; its second may
be 60.
-/

namespace RecordTyping.Toml

/-- The digits of a run of digits with single underscores between them. -/
def spacedDigits? (isDigit : Char → Bool) : List Char → Option (List Char)
  | [] => none
  | [c] => if isDigit c then some [c] else none
  | c :: '_' :: rest => if isDigit c then (spacedDigits? isDigit rest).map (c :: ·) else none
  | c :: rest => if isDigit c then (spacedDigits? isDigit rest).map (c :: ·) else none

/-- The digits of a decimal whole number, which starts with a zero only if it is one digit. -/
def wholeDigits? (s : List Char) : Option (List Char) :=
  match spacedDigits? Char.isDigit s with
  | some ('0' :: _ :: _) => none
  | digits => digits

/-- The value of digits in a base of at most sixteen. -/
def basedValue? (base : Nat) (s : List Char) : Option Nat := do
  let isDigit (c : Char) : Bool :=
    match Text.hexValue? [c] with
    | some n => n < base
    | none => false
  let digits ← spacedDigits? isDigit s
  return digits.foldl (fun n c => base * n + (Text.hexValue? [c]).getD 0) 0

/-- The number of an unsigned decimal text. -/
def decimal? (negative : Bool) (s : List Char) : Option Value := do
  let isWhole (c : Char) : Bool := c.isDigit || c = '_'
  let whole ← wholeDigits? (s.takeWhile isWhole)
  let rest := s.dropWhile isWhole
  if rest.isEmpty then
    let n : Int := Text.digitsValue whole
    return .integer (if negative then -n else n)
  let (fraction, rest) ← match rest with
    | '.' :: rest => do
      let digits ← spacedDigits? Char.isDigit (rest.takeWhile isWhole)
      pure (digits, rest.dropWhile isWhole)
    | rest => pure ([], rest)
  let power ← match rest with
    | [] => some (0 : Int)
    | c :: rest =>
      if c = 'e' ∨ c = 'E' then
        match rest with
        | '-' :: rest =>
          (spacedDigits? Char.isDigit rest).map fun digits => -(Text.digitsValue digits : Int)
        | '+' :: rest =>
          (spacedDigits? Char.isDigit rest).map fun digits => (Text.digitsValue digits : Int)
        | rest =>
          (spacedDigits? Char.isDigit rest).map fun digits => (Text.digitsValue digits : Int)
      else none
  match (Decimal.ofDigits negative whole fraction power).toBinary64? with
  | some d => return .float (.finite d)
  | none => return .float .tooLarge

/-- The number of a text after its sign. -/
def signed? (negative : Bool) (s : List Char) : Option Value :=
  if s = ['i', 'n', 'f'] then some (.float (.infinite negative))
  else if s = ['n', 'a', 'n'] then some (.float .notANumber)
  else decimal? negative s

/-- The number of a text. -/
def number? (s : List Char) : Option Value :=
  match s with
  | '+' :: rest => signed? false rest
  | '-' :: rest => signed? true rest
  | '0' :: 'x' :: rest => (basedValue? 16 rest).map fun n => .integer n
  | '0' :: 'o' :: rest => (basedValue? 8 rest).map fun n => .integer n
  | '0' :: 'b' :: rest => (basedValue? 2 rest).map fun n => .integer n
  | rest => signed? false rest

/-- Takes a date off the front. -/
def date? (s : List Char) : Option (Calendar.Date × List Char) := do
  let (year, s) ← Calendar.fixedNumber? 4 s
  let s ← Calendar.separator? '-' s
  let (month, s) ← Calendar.fixedNumber? 2 s
  let s ← Calendar.separator? '-' s
  let (day, s) ← Calendar.fixedNumber? 2 s
  return (← Calendar.Date.ofParts? year month day, s)

/-- Takes a time of day off the front. -/
def timeOfDay? (s : List Char) : Option (Calendar.Time × List Char) := do
  let (hour, s) ← Calendar.fixedNumber? 2 s
  let s ← Calendar.separator? ':' s
  let (minute, s) ← Calendar.fixedNumber? 2 s
  let (second, s) ← match s with
    | ':' :: s => do
      let (second, s) ← Calendar.fixedNumber? 2 s
      pure (second, ← Calendar.skipFraction? s)
    | s => pure (0, s)
  return (← Calendar.Time.ofParts? hour minute second, s)

/-- Whether a text is a date, a time of day or both, with or without an offset. -/
def isMoment (s : List Char) : Bool :=
  match date? s with
  | some (_, []) => true
  | some (_, c :: rest) =>
    (c = 'T' || c = 't' || c = ' ') &&
      match timeOfDay? rest with
      | some (_, []) => true
      | some (_, rest) => (Calendar.readOffset? rest).isSome
      | none => false
  | none =>
    match timeOfDay? s with
    | some (_, rest) => rest.isEmpty
    | none => false

/-- The value of a text that has no marks around it. -/
def scalarValue? (s : List Char) : Option Value :=
  if s = ['t', 'r', 'u', 'e'] then some (.boolean true)
  else if s = ['f', 'a', 'l', 's', 'e'] then some (.boolean false)
  else if isMoment s then some (.moment (String.ofList s))
  else number? s

/-- The characters of such texts. -/
def isScalarChar (c : Char) : Bool :=
  c.isAlphanum || c = '+' || c = '-' || c = '_' || c = '.' || c = ':'

/-- Takes a value without marks off the front. A time of day may follow a date after one blank. -/
def readScalar : Reader Value := fun s => do
  let word := s.takeWhile isScalarChar
  let rest := s.dropWhile isScalarChar
  match date? word, rest with
  | some (_, []), ' ' :: c :: more =>
    if c.isDigit then
      let time := (c :: more).takeWhile isScalarChar
      return (← scalarValue? (word ++ ' ' :: time), (c :: more).dropWhile isScalarChar)
    else return (← scalarValue? word, rest)
  | _, _ => return (← scalarValue? word, rest)

end RecordTyping.Toml
