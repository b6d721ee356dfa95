import RecordTyping.Text.Numeral

/-!
# Days of the proleptic Gregorian calendar

A date is a real day of a year of either sign; year zero is the year before year one. Dates
are written year first, with two digits for month and day. A year of 0 to 9999 has four
digits, and any other a sign and at least four.
-/

namespace RecordTyping.Calendar

/-- A leap year is divisible by four, but by a hundred only if by four hundred. -/
def isLeap (year : Int) : Bool := year % 4 = 0 && (year % 100 ≠ 0 || year % 400 = 0)

/-- The number of days of a month; months are counted from one. -/
def daysInMonth (year : Int) (month : Nat) : Nat :=
  match month with
  | 2 => if isLeap year then 29 else 28
  | 4 => 30
  | 6 => 30
  | 9 => 30
  | 11 => 30
  | _ => 31

/-- A day of the calendar. -/
structure Date where
  year : Int
  month : Nat
  day : Nat
  month_real : 1 ≤ month ∧ month ≤ 12
  day_real : 1 ≤ day ∧ day ≤ daysInMonth year month
deriving DecidableEq

theorem one_le_daysInMonth (year : Int) (month : Nat) : 1 ≤ daysInMonth year month := by
  unfold daysInMonth
  split <;> (try split) <;> decide

theorem daysInMonth_le (year : Int) (month : Nat) : daysInMonth year month ≤ 31 := by
  unfold daysInMonth
  split <;> (try split) <;> decide

namespace Date

/-- The date of a year, a month and a day, if they are one. -/
def ofParts? (year : Int) (month day : Nat) : Option Date :=
  if h : (1 ≤ month ∧ month ≤ 12) ∧ 1 ≤ day ∧ day ≤ daysInMonth year month then
    some ⟨year, month, day, h.1, h.2⟩
  else none

/-- The first day of a year. -/
def firstOf (year : Int) : Date :=
  ⟨year, 1, 1, by decide, by simp [daysInMonth]⟩

/-- The last day of a year. -/
def lastOf (year : Int) : Date :=
  ⟨year, 12, 31, by decide, by simp [daysInMonth]⟩

/-- The day after. -/
def next (d : Date) : Date :=
  if h : d.day + 1 ≤ daysInMonth d.year d.month then
    ⟨d.year, d.month, d.day + 1, d.month_real, by omega, h⟩
  else if h : d.month + 1 ≤ 12 then
    ⟨d.year, d.month + 1, 1, by omega, Nat.le_refl 1, one_le_daysInMonth _ _⟩
  else firstOf (d.year + 1)

/-- The day before. -/
def previous (d : Date) : Date :=
  if h : 1 ≤ d.day - 1 then
    ⟨d.year, d.month, d.day - 1, d.month_real, h, by have := d.day_real; omega⟩
  else if h : 1 ≤ d.month - 1 then
    ⟨d.year, d.month - 1, daysInMonth d.year (d.month - 1), by have := d.month_real; omega,
      one_le_daysInMonth _ _, Nat.le_refl _⟩
  else lastOf (d.year - 1)

end Date

/-- The digits of a number, with zeros before them up to a width. -/
def padded (width n : Nat) : List Char :=
  let digits := Nat.toDigits 10 n
  List.replicate (width - digits.length) '0' ++ digits

/-- The text of a year. -/
def yearText (year : Int) : List Char :=
  if 0 ≤ year ∧ year ≤ 9999 then padded 4 year.toNat
  else (if year < 0 then '-' else '+') :: padded 4 year.natAbs

/-- The text of a date. -/
def Date.text (d : Date) : List Char :=
  yearText d.year ++ '-' :: padded 2 d.month ++ '-' :: padded 2 d.day

end RecordTyping.Calendar
