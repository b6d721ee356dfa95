import RecordTyping.Proofs.Instants
import RecordTyping.Proofs.TextOrder

/-!
# The order of normal forms

The normal forms of dates and of points in time of the four-digit years have parts of fixed widths,
the larger ones first. So two of them are the same exactly if they write the same day, or the same
minute and second, and their bytes are in the order of the calendar, however the texts were
written from which coercion made them.
-/

namespace RecordTyping

namespace Text

/-- Texts of the same bytes are the same. -/
theorem bytes_inj {s t : String} : bytes s = bytes t ↔ s = t := by
  constructor
  · intro same
    exact String.toByteArray_inj.1 (ByteArray.ext (Array.toList_inj.1 same))
  · rintro rfl
    rfl

/-- Texts are the same exactly if they compare as the same. -/
theorem eq_iff_compare {s t : String} : s = t ↔ compare (bytes s) (bytes t) = .eq := by
  rw [Std.LawfulEqOrd.compare_eq_iff_eq, bytes_inj]

end Text

namespace Calendar

open Text (Compares)

variable {s s' : List Char}

/-- The written forms of four-digit years compare as the years do. -/
theorem WrittenYear.compares {year year' : Int} (written : WrittenYear year s)
    (written' : WrittenYear year' s') (plain : FourDigit year) (plain' : FourDigit year') :
    Compares s s' (compare year year') := by
  rcases written.form with ⟨-, number, rfl, digits⟩ | ⟨signed, -⟩
  · rcases written'.form with ⟨-, number', rfl, digits'⟩ | ⟨signed, -⟩
    · rw [compare_natCast]
      exact digits.compares digits'
    · exact absurd plain' signed
  · exact absurd plain signed

/-- The written forms of dates of four-digit years compare as the dates do. -/
theorem Date.Written.compares {d d' : Date} (written : d.Written s) (written' : d'.Written s')
    (plain : FourDigit d.year) (plain' : FourDigit d'.year) :
    Compares s s' (compare d.number d'.number) := by
  obtain ⟨years, months, days⟩ := written
  obtain ⟨years', months', days'⟩ := written'
  rw [compare_number, ← Ordering.then_assoc]
  exact ((years.compares years' plain plain').append (.mark '-' (months.compares months'))).append
    (.mark '-' (days.compares days'))

/-- The written forms of times of day compare by hour, minute and second. -/
theorem Time.Written.compares {t t' : Time} (written : t.Written s) (written' : t'.Written s') :
    Compares s s' (((compare t.hour t'.hour).then (compare t.minute t'.minute)).then
      (compare t.second t'.second)) := by
  obtain ⟨hours, minutes, seconds⟩ := written
  obtain ⟨hours', minutes', seconds'⟩ := written'
  exact ((hours.compares hours').append (.mark ':' (minutes.compares minutes'))).append
    (.mark ':' (seconds.compares seconds'))

/-- The written forms of points in universal time of four-digit years compare by minute and
second. -/
theorem DateTime.Written.compares {t t' : DateTime} (written : t.Written s)
    (written' : t'.Written s') (plain : FourDigit t.date.year) (plain' : FourDigit t'.date.year) :
    Compares s s' ((compare t.minuteNumber t'.minuteNumber).then
      (compare t.time.second t'.time.second)) := by
  obtain ⟨dates, times⟩ := written
  obtain ⟨dates', times'⟩ := written'
  have whole := ((dates.compares dates' plain plain').append
    (.mark 'T' (times.compares times'))).append (.refl ['Z'])
  rwa [Ordering.then_eq, ← Ordering.then_assoc, ← compare_minuteNumber] at whole

end Calendar

open Calendar (Date DateTime FourDigit)
open Coercion (core)

/-- A text that names a date becomes the written form of it. -/
theorem coerce_date_named {s : String} {d : Date} (named : d.Lenient [] (core s)) :
    coerce .date (.string s) = .ok (.string (String.ofList d.text)) :=
  (coerce_plain_eq_ok rfl).2 ⟨nofun, Coercion.toDate_ok.2
    ⟨s, d, rfl, Calendar.readDate_eq_ok.2 named, rfl⟩⟩

/-- Only texts that name a date become one. -/
theorem date_of_coerce {s : String} {w : Json.Value}
    (converted : coerce .date (.string s) = .ok w) : ∃ d : Date, d.Lenient [] (core s) := by
  have passed : Coercion.toDate (.string s) = .ok w := ((coerce_plain_eq_ok rfl).1 converted).2
  obtain ⟨_, d, same, found, -⟩ := Coercion.toDate_ok.1 passed
  obtain rfl := Json.Value.string.inj same
  exact ⟨d, Calendar.readDate_eq_ok.1 found⟩

/-- The normal forms of four-digit years are canonical and in the order of time. Every text that
becomes a date names one, and those of two texts are the same exactly if the dates are, and are in
the order of the dates byte by byte. Every text that becomes a point in time names one in
universal time, and those of two texts are the same exactly if the minutes and the seconds are, a
leap second being none of the next minute, and are in the order of minutes and seconds byte by
byte. -/
theorem normal_forms_ordered (s s' : String) :
    ((∀ w, coerce .date (.string s) = .ok w → ∃ d : Date, d.Lenient [] (core s)) ∧
      ∀ d d' : Date, d.Lenient [] (core s) → d'.Lenient [] (core s') → FourDigit d.year →
        FourDigit d'.year → ∃ w w' : String, coerce .date (.string s) = .ok (.string w) ∧
          coerce .date (.string s') = .ok (.string w') ∧ (w = w' ↔ d = d') ∧
          compare (Text.bytes w) (Text.bytes w') = compare d.number d'.number) ∧
    (∀ w, coerce .dateTime (.string s) = .ok w → ∃ u : DateTime, u.Named (core s)) ∧
      ∀ u u' : DateTime, u.Named (core s) → u'.Named (core s') → FourDigit u.date.year →
        FourDigit u'.date.year → ∃ w w' : String, coerce .dateTime (.string s) = .ok (.string w) ∧
          coerce .dateTime (.string s') = .ok (.string w') ∧
          (w = w' ↔ u.minuteNumber = u'.minuteNumber ∧ u.time.second = u'.time.second) ∧
          compare (Text.bytes w) (Text.bytes w') =
            (compare u.minuteNumber u'.minuteNumber).then
              (compare u.time.second u'.time.second) := by
  refine ⟨⟨fun w => date_of_coerce, ?_⟩, fun w => named_of_coerce, ?_⟩
  · intro d d' named named' plain plain'
    have order := (d.text_written.compares d'.text_written plain plain').bytes
    rw [← Text.bytes_ofList, ← Text.bytes_ofList] at order
    refine ⟨_, _, coerce_date_named named, coerce_date_named named', ?_, order⟩
    rw [Text.eq_iff_compare, order, Int.compare_eq_eq]
    exact ⟨Date.eq_of_number, congrArg Date.number⟩
  · intro u u' named named' plain plain'
    have order := (u.text_written.compares u'.text_written plain plain').bytes
    rw [← Text.bytes_ofList, ← Text.bytes_ofList] at order
    refine ⟨_, _, coerce_dateTime_named named, coerce_dateTime_named named', ?_, order⟩
    rw [Text.eq_iff_compare, order, Ordering.then_eq_eq, Int.compare_eq_eq, Nat.compare_eq_eq]

/-- The ninth of a month comes before the tenth, though the digit nine does not come before one,
and a leap second before the minute after it, at the start of another month. -/
theorem normal_forms_ordered_spellings :
    coerce .date (.string "2024-3- 9") = .ok (.string "2024-03-09") ∧
      coerce .date (.string "+02024-3-10") = .ok (.string "2024-03-10") ∧
      compare (Text.bytes "2024-03-09") (Text.bytes "2024-03-10") = .lt ∧
      coerce .dateTime (.string "2024-02-29T22:59:60-01:00") =
        .ok (.string "2024-02-29T23:59:60Z") ∧
      coerce .dateTime (.string "2024-3-1 0:0:0") = .ok (.string "2024-03-01T00:00:00Z") ∧
      compare (Text.bytes "2024-02-29T23:59:60Z") (Text.bytes "2024-03-01T00:00:00Z") = .lt := by
  have ninth : coerce .date (.string "2024-3- 9") = .ok (.string "2024-03-09") := by rfl
  have tenth : coerce .date (.string "+02024-3-10") = .ok (.string "2024-03-10") := by rfl
  have leap : coerce .dateTime (.string "2024-02-29T22:59:60-01:00") =
      .ok (.string "2024-02-29T23:59:60Z") := by rfl
  have march : coerce .dateTime (.string "2024-3-1 0:0:0") =
      .ok (.string "2024-03-01T00:00:00Z") := by rfl
  have days : compare (Text.bytes "2024-03-09") (Text.bytes "2024-03-10") = .lt := by
    have first : Calendar.readDate (core "2024-3- 9") =
        .ok ⟨2024, 3, 9, by decide, by decide⟩ := by rfl
    have second : Calendar.readDate (core "+02024-3-10") =
        .ok ⟨2024, 3, 10, by decide, by decide⟩ := by rfl
    obtain ⟨w, w', converted, converted', -, order⟩ := (normal_forms_ordered _ _).1.2 _ _
      (Calendar.readDate_eq_ok.1 first) (Calendar.readDate_eq_ok.1 second) (by decide) (by decide)
    rw [ninth] at converted
    rw [tenth] at converted'
    obtain rfl := Json.Value.string.inj (Except.ok.inj converted)
    obtain rfl := Json.Value.string.inj (Except.ok.inj converted')
    rw [order]
    decide
  have seconds : compare (Text.bytes "2024-02-29T23:59:60Z") (Text.bytes "2024-03-01T00:00:00Z") =
      .lt := by
    have first : Calendar.readUniversal (core "2024-02-29T22:59:60-01:00") =
        .ok ⟨⟨2024, 2, 29, by decide, by decide⟩,
          ⟨23, 59, 60, by decide, by decide, by decide⟩⟩ := by rfl
    have second : Calendar.readUniversal (core "2024-3-1 0:0:0") =
        .ok ⟨⟨2024, 3, 1, by decide, by decide⟩,
          ⟨0, 0, 0, by decide, by decide, by decide⟩⟩ := by rfl
    obtain ⟨w, w', converted, converted', -, order⟩ := (normal_forms_ordered _ _).2.2 _ _
      (Calendar.readUniversal_eq_ok.1 first) (Calendar.readUniversal_eq_ok.1 second) (by decide)
      (by decide)
    rw [leap] at converted
    rw [march] at converted'
    obtain rfl := Json.Value.string.inj (Except.ok.inj converted)
    obtain rfl := Json.Value.string.inj (Except.ok.inj converted')
    rw [order]
    decide
  exact ⟨ninth, tenth, days, leap, march, seconds⟩

end RecordTyping
