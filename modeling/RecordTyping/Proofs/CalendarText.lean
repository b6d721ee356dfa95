import RecordTyping.Proofs.Digits

/-!
# How dates and times are written

What a text must look like to be the text of a date or of a point in universal time, said
without the printer: which digits it has, how many, and what stands between them. The printed
texts are such texts, and have no blanks.
-/

namespace RecordTyping.Calendar

open Text (Digits)

/-- A text is that of a year: four digits for a year of 0 to 9999, and for any other one a sign
and at least four digits, of which no more are there than the year needs. -/
inductive WrittenYear : Int → List Char → Prop where
  | plain {year : Nat} {s : List Char} (digits : Digits 4 year s) : WrittenYear year s
  | late {year width : Nat} {s : List Char} (beyond : 9999 < year) (least : 4 ≤ width)
      (needed : 4 < width → 10 ^ (width - 1) ≤ year) (digits : Digits width year s) :
    WrittenYear year ('+' :: s)
  | early {year width : Nat} {s : List Char} (before : 0 < year) (least : 4 ≤ width)
      (needed : 4 < width → 10 ^ (width - 1) ≤ year) (digits : Digits width year s) :
    WrittenYear (-year) ('-' :: s)

/-- A text is that of a day: its year, and two digits each for its month and its day. -/
inductive Date.Written (d : Date) : List Char → Prop where
  | parts {year month day : List Char} (years : WrittenYear d.year year)
      (months : Digits 2 d.month month) (days : Digits 2 d.day day) :
    d.Written (year ++ '-' :: month ++ '-' :: day)

/-- A text is that of a time of day: two digits each for its hour, its minute and its second. -/
inductive Time.Written (t : Time) : List Char → Prop where
  | parts {hour minute second : List Char} (hours : Digits 2 t.hour hour)
      (minutes : Digits 2 t.minute minute) (seconds : Digits 2 t.second second) :
    t.Written (hour ++ ':' :: minute ++ ':' :: second)

/-- A text is that of a point in universal time: its date and its time of day, each with the letter
after it. -/
inductive DateTime.Written (d : DateTime) : List Char → Prop where
  | parts {date time : List Char} (dates : d.date.Written date) (times : d.time.Written time) :
    d.Written (date ++ 'T' :: time ++ ['Z'])

/-- Years are printed as they are written. -/
theorem yearText_written (year : Int) : WrittenYear year (yearText year) := by
  unfold yearText
  split
  · rename_i plain
    have fits : year.toNat < 10 ^ 4 := by omega
    have digits := padded_digits (by decide) fits
    have same : (year.toNat : Int) = year := Int.toNat_of_nonneg plain.1
    exact same ▸ WrittenYear.plain digits
  · rename_i signed
    obtain ⟨width, least, needed, digits⟩ := padded_written (show 0 < 4 by decide) year.natAbs
    by_cases negative : year < 0
    · have same : -(year.natAbs : Int) = year := by omega
      have written := WrittenYear.early (by omega) least needed digits
      rw [same] at written
      rwa [if_pos negative]
    · have same : (year.natAbs : Int) = year := by omega
      have written := WrittenYear.late (by omega) least needed digits
      rw [same] at written
      rwa [if_neg negative]

/-- Dates are printed as they are written. -/
theorem Date.text_written (d : Date) : d.Written d.text := by
  have month : d.month < 10 ^ 2 := by have := d.month_real; omega
  have most : daysInMonth d.year d.month ≤ 31 := daysInMonth_le d.year d.month
  have day : d.day < 10 ^ 2 := by have := d.day_real; omega
  exact .parts (yearText_written d.year) (padded_digits (by decide) month)
    (padded_digits (by decide) day)

/-- Times of day are printed as they are written. -/
theorem Time.text_written (t : Time) : t.Written t.text := by
  have hour : t.hour < 10 ^ 2 := by have := t.hour_lt; omega
  have minute : t.minute < 10 ^ 2 := by have := t.minute_lt; omega
  have second : t.second < 10 ^ 2 := by have := t.second_le; omega
  exact .parts (padded_digits (by decide) hour) (padded_digits (by decide) minute)
    (padded_digits (by decide) second)

/-- Points in universal time are printed as they are written. -/
theorem DateTime.text_written (d : DateTime) : d.Written d.text :=
  .parts d.date.text_written d.time.text_written

/-- Digits are no blanks. -/
theorem digits_unblank {width number : Nat} {s : List Char} (digits : Digits width number s) :
    ∀ c ∈ s, Text.isBlank c = false :=
  fun c member => Text.isBlank_of_isDigit (digits.digits c member)

/-- Two texts without blanks have none with a mark between them. -/
theorem unblank_join {left right : List Char} {mark : Char} (sign : Text.isBlank mark = false)
    (before : ∀ c ∈ left, Text.isBlank c = false) (after : ∀ c ∈ right, Text.isBlank c = false) :
    ∀ c ∈ left ++ mark :: right, Text.isBlank c = false :=
  List.forall_mem_append.2 ⟨before, List.forall_mem_cons.2 ⟨sign, after⟩⟩

/-- The text of a year has no blanks. -/
theorem WrittenYear.unblank {year : Int} {s : List Char} (written : WrittenYear year s) :
    ∀ c ∈ s, Text.isBlank c = false := by
  cases written with
  | plain digits => exact digits_unblank digits
  | late _ _ _ digits => exact List.forall_mem_cons.2 ⟨rfl, digits_unblank digits⟩
  | early _ _ _ digits => exact List.forall_mem_cons.2 ⟨rfl, digits_unblank digits⟩

/-- The text of a date has no blanks. -/
theorem Date.Written.unblank {d : Date} {s : List Char} (written : d.Written s) :
    ∀ c ∈ s, Text.isBlank c = false := by
  cases written with
  | parts years months days =>
    exact unblank_join rfl (unblank_join rfl years.unblank (digits_unblank months))
      (digits_unblank days)

/-- The text of a time of day has no blanks. -/
theorem Time.Written.unblank {t : Time} {s : List Char} (written : t.Written s) :
    ∀ c ∈ s, Text.isBlank c = false := by
  cases written with
  | parts hours minutes seconds =>
    exact unblank_join rfl (unblank_join rfl (digits_unblank hours) (digits_unblank minutes))
      (digits_unblank seconds)

/-- The text of a point in universal time has no blanks. -/
theorem DateTime.Written.unblank {d : DateTime} {s : List Char} (written : d.Written s) :
    ∀ c ∈ s, Text.isBlank c = false := by
  cases written with
  | parts dates times =>
    exact unblank_join rfl (unblank_join rfl dates.unblank times.unblank) (by simp)

end RecordTyping.Calendar
