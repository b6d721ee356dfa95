import RecordTyping.Calendar.Date

/-!
# Times of day and points in universal time

A time has a second of 0 to 60, where 60 is a leap second. An offset from universal time
is a whole number of minutes of less than a day, so that moving a time by it crosses at
most one midnight and leaves the second as it is.
-/

namespace RecordTyping.Calendar

/-- A time of day. -/
structure Time where
  hour : Nat
  minute : Nat
  second : Nat
  hour_lt : hour < 24
  minute_lt : minute < 60
  second_le : second ≤ 60
deriving DecidableEq

/-- The time of an hour, a minute and a second, if they are one. -/
def Time.ofParts? (hour minute second : Nat) : Option Time :=
  if h : hour < 24 ∧ minute < 60 ∧ second ≤ 60 then
    some ⟨hour, minute, second, h.1, h.2.1, h.2.2⟩
  else none

/-- A date and a time of day. -/
structure DateTime where
  date : Date
  time : Time
deriving DecidableEq

/-- The time whose minute of the day is given, up to whole days. -/
def Time.ofMinutes (minutes : Nat) (second : Nat) (h : second ≤ 60) : Time :=
  ⟨minutes / 60 % 24, minutes % 60, second, Nat.mod_lt _ (by decide), Nat.mod_lt _ (by decide), h⟩

/-- The minute of the day. -/
def Time.minutes (t : Time) : Nat := t.hour * 60 + t.minute

/-- The minutes of a day. -/
def dayMinutes : Int := 1440

/-- The universal time of a local time whose offset is given in minutes. -/
def DateTime.universal (local_ : DateTime) (offset : Int) : DateTime :=
  let minutes : Int := local_.time.minutes - offset
  let time (m : Int) := Time.ofMinutes m.toNat local_.time.second local_.time.second_le
  if minutes < 0 then ⟨local_.date.previous, time (minutes + dayMinutes)⟩
  else if dayMinutes ≤ minutes then ⟨local_.date.next, time (minutes - dayMinutes)⟩
  else ⟨local_.date, time minutes⟩

/-- The text of a time of day. -/
def Time.text (t : Time) : List Char :=
  padded 2 t.hour ++ ':' :: padded 2 t.minute ++ ':' :: padded 2 t.second

/-- The text of a point in universal time. -/
def DateTime.text (d : DateTime) : List Char :=
  d.date.text ++ 'T' :: d.time.text ++ ['Z']

end RecordTyping.Calendar
