import RecordTyping.Proofs.DayNumber
import RecordTyping.Proofs.StrictForm

/-!
# Reading written dates and times

The lenient reader takes every written date of a year that is read at all, and the strict one
every written point in time of a four-digit year. To the strict reader a sign before the year is no
digit, and to the lenient one the letter after the date is none, so that a written point in
time of any other year is refused by both.
-/

namespace RecordTyping.Calendar

open Text (Digits)

variable {year : Int} {s : List Char}

/-- A written year has the lenient form. -/
theorem WrittenYear.lenient (written : WrittenYear year s) : LenientYear year s := by
  have none : ∀ c ∈ ([] : List Char), Text.isBlank c = true := fun _ => nofun
  cases written with
  | plain digits => exact .plain (.full digits (by decide) _)
  | late beyond least needed digits => exact .late none digits (by omega)
  | early before least needed digits => exact .early none digits (by omega)

/-- A written date of a year that is read has the lenient form. -/
theorem Date.Written.lenient {d : Date} (written : d.Written s) (readable : Readable d.year)
    (rest : List Char) : d.Lenient rest s := by
  cases written with
  | parts years months days =>
    exact .parts readable years.lenient (.full months (by decide) _) (.full days (by decide) _)

/-- A written date of a year that is read is read as the date. -/
theorem readDate_written {d : Date} (written : d.Written s) (readable : Readable d.year) :
    readDate s = .ok d :=
  readDate_eq_ok.2 (written.lenient readable [])

/-- A written point in time is no local time: what follows the date is no digit. -/
theorem readLocal_written {t : DateTime} (written : t.Written s) (readable : Readable t.date.year) :
    readLocal s = .error .badCharacter := by
  cases written with
  | @parts date time dates times =>
    have refused := readLocal_letter (dates.lenient readable ('T' :: (time ++ ['Z']))) rfl rfl
    rwa [List.append_assoc, List.cons_append]

/-- The year of a written date has exactly four digits or starts with a sign. -/
theorem WrittenYear.form (written : WrittenYear year s) :
    (FourDigit year ∧ ∃ number : Nat, year = number ∧ Digits 4 number s) ∨
      (¬FourDigit year ∧ ∃ sign tail, s = sign :: tail ∧ sign.isDigit = false) := by
  cases written with
  | @plain number s digits =>
    exact .inl ⟨fourDigit_digits digits, number, rfl, digits⟩
  | @late number width s beyond least needed digits =>
    exact .inr ⟨fun plain => by have := plain.2; omega, '+', s, rfl, rfl⟩
  | @early number width s before least needed digits =>
    exact .inr ⟨fun plain => by have := plain.1; omega, '-', s, rfl, rfl⟩

/-- A written point in time of a four-digit year has the strict form, with the offset zero. -/
theorem DateTime.Written.strict {t : DateTime} (written : t.Written s)
    (plain : FourDigit t.date.year) : t.Strict 0 s := by
  obtain ⟨dates, times⟩ := written
  obtain ⟨years, months, days⟩ := dates
  obtain ⟨hours, minutes, seconds⟩ := times
  rcases years.form with ⟨-, number, same, digits⟩ | ⟨signed, -⟩
  · have form := DateTime.Strict.parts same digits months days (.inl rfl) hours minutes seconds
      .missing (.universal (.inl rfl))
    simpa only [List.append_assoc, List.cons_append, List.nil_append] using form
  · exact absurd plain signed

/-- A written point in time of a four-digit year is read by the strict reader. -/
theorem readOffsetTime?_written {t : DateTime} (written : t.Written s)
    (plain : FourDigit t.date.year) : readOffsetTime? s = some (t, 0) :=
  readOffsetTime?_eq_some.2 (written.strict plain)

/-- A written point in time of any other year has not the strict form. -/
theorem readOffsetTime?_signed {t : DateTime} (written : t.Written s)
    (signed : ¬FourDigit t.date.year) : readOffsetTime? s = none := by
  obtain ⟨dates, times⟩ := written
  obtain ⟨years, months, days⟩ := dates
  rcases years.form with ⟨plain, -⟩ | ⟨-, sign, tail, rfl, mark⟩
  · exact absurd plain signed
  · have year := fixedNumber?_mark mark (show 0 < 4 by decide)
    simp only [readOffsetTime?, List.append_assoc, List.cons_append, year, bind, Option.bind]

/-- An offset of zero moves no time. -/
theorem DateTime.universal_zero (t : DateTime) : t.universal 0 = t := by
  obtain ⟨minute, second⟩ := t.universal_moved (show (0 : Int).natAbs < 1440 by decide)
  exact eq_of_minuteNumber (by rw [minute, Int.sub_zero]) second

/-- The day before is of the same year or of the one before. -/
theorem Date.previous_year (d : Date) :
    d.previous.year = d.year ∨ d.previous.year = d.year - 1 := by
  unfold Date.previous
  split
  · exact .inl rfl
  · split
    · exact .inl rfl
    · exact .inr rfl

/-- The day after is of the same year or of the one after. -/
theorem Date.next_year (d : Date) : d.next.year = d.year ∨ d.next.year = d.year + 1 := by
  unfold Date.next
  split
  · exact .inl rfl
  · split
    · exact .inl rfl
    · exact .inr rfl

/-- An offset moves a time by at most one year. -/
theorem DateTime.universal_year (t : DateTime) (offset : Int) :
    t.date.year - 1 ≤ (t.universal offset).date.year ∧
      (t.universal offset).date.year ≤ t.date.year + 1 := by
  have before := t.date.previous_year
  have after := t.date.next_year
  simp only [DateTime.universal]
  split
  · dsimp only
    omega
  · split <;> (dsimp only; omega)

/-- A written point in time of a four-digit year is read as it is. -/
theorem readUniversal_written {t : DateTime} (written : t.Written s)
    (plain : FourDigit t.date.year) : readUniversal s = .ok t := by
  simp only [readUniversal, readOffsetTime?_written written plain, DateTime.universal_zero]

/-- A written point in time of any other year is not read. -/
theorem readUniversal_signed {t : DateTime} (written : t.Written s)
    (signed : ¬FourDigit t.date.year) (readable : Readable t.date.year) :
    readUniversal s = .error .badCharacter := by
  simp only [readUniversal, readOffsetTime?_signed written signed,
    readLocal_written written readable]

/-- A date that is read is of a year that is read. -/
theorem readDate_readable {d : Date} (found : readDate s = .ok d) : Readable d.year := by
  cases readDate_eq_ok.1 found with
  | parts readable => exact readable

/-- A local time that is read is of a year that is read. -/
theorem readLocal_readable {t : DateTime} (found : readLocal s = .ok t) : Readable t.date.year := by
  cases readLocal_eq_ok.1 found with
  | parts dates =>
    cases dates with
    | parts readable => exact readable

/-- A point in time that is read is of a year that is read: an offset moves the four-digit years of
the strict form by no more than one. -/
theorem readUniversal_readable {t : DateTime} (found : readUniversal s = .ok t) :
    Readable t.date.year := by
  unfold readUniversal at found
  split at found
  · rename_i here offset strict
    obtain rfl := Except.ok.inj found
    have plain := (readOffsetTime?_eq_some.1 strict).fourDigit
    have moved := here.universal_year offset
    have low : minYear = -262143 := rfl
    have high : maxYear = 262142 := rfl
    unfold FourDigit at plain
    unfold Readable
    omega
  · exact readLocal_readable found

end RecordTyping.Calendar
