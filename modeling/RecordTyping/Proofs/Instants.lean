import RecordTyping.Proofs.Coercion

/-!
# The instant of a timestamp

A text of a point in time is one of the strict form, which names a local time and its offset from
universal time, or one of the lenient form, which is taken as universal. No text is both, so that it
does not matter which form is tried first. Coercion yields the written form of the very minute and
second that the text names: the local minute less the offset, on one line of minutes over all
days of the calendar, and the second as it is, without its fraction.
-/

namespace RecordTyping

namespace Calendar

variable {s : List Char} {u : DateTime}

/-- The point in universal time that a text names. A local time is as many minutes ahead of
universal time as its offset says; a leap second stays one. -/
inductive DateTime.Named (u : DateTime) : List Char → Prop where
  | strict {t : DateTime} {offset : Int} {s : List Char} (form : t.Strict offset s)
      (minute : u.minuteNumber = t.minuteNumber - offset)
      (second : u.time.second = t.time.second) : u.Named s
  | lenient {s : List Char} (form : u.Lenient s) : u.Named s

/-- A local time of the strict form is moved by its offset. -/
theorem DateTime.Strict.moved {t : DateTime} {offset : Int} (form : t.Strict offset s) :
    (t.universal offset).minuteNumber = t.minuteNumber - offset ∧
      (t.universal offset).time.second = t.time.second := by
  cases form with
  | parts _ _ _ _ _ _ _ _ _ zones => exact t.universal_moved zones.within

/-- A text of the strict form is read as its local time moved by its offset. -/
theorem DateTime.Strict.readUniversal {t : DateTime} {offset : Int} (form : t.Strict offset s) :
    readUniversal s = .ok (t.universal offset) := by
  rw [Calendar.readUniversal, readOffsetTime?_eq_some.2 form]

/-- A text of the lenient form is read as the time that it writes. -/
theorem DateTime.Lenient.readUniversal (form : u.Lenient s) : readUniversal s = .ok u := by
  have other : readOffsetTime? s = none := by
    rw [Option.eq_none_iff_forall_ne_some]
    rintro ⟨t, offset⟩ found
    exact (readOffsetTime?_eq_some.1 found).not_lenient u form
  rw [Calendar.readUniversal, other]
  exact readLocal_eq_ok.2 form

/-- Exactly the texts that name a point in universal time are read as it. -/
theorem readUniversal_eq_ok : readUniversal s = .ok u ↔ u.Named s := by
  constructor
  · intro found
    unfold readUniversal at found
    split at found
    · next t offset strict =>
      obtain rfl := Except.ok.inj found
      have form := readOffsetTime?_eq_some.1 strict
      exact .strict form form.moved.1 form.moved.2
    · exact .lenient (readLocal_eq_ok.1 found)
  · intro named
    cases named with
    | strict form minute second =>
      have same : u = _ := DateTime.eq_of_minuteNumber (minute.trans form.moved.1.symm)
        (second.trans form.moved.2.symm)
      rw [form.readUniversal, ← same]
    | lenient form => exact form.readUniversal

/-- The two forms tried in the other order. -/
def readLenientFirst (s : List Char) : Except Fault DateTime :=
  match readLocal s with
  | .ok t => .ok t
  | .error fault =>
    match readOffsetTime? s with
    | some (t, offset) => .ok (t.universal offset)
    | none => .error fault

/-- The order in which the two forms are tried makes no difference, neither to what is read nor to
the fault. -/
theorem readUniversal_eq_readLenientFirst (s : List Char) :
    readUniversal s = readLenientFirst s := by
  cases found : readLocal s with
  | ok t =>
    have lenient : readLenientFirst s = .ok t := by rw [readLenientFirst, found]
    exact (readLocal_eq_ok.1 found).readUniversal.trans lenient.symm
  | error fault =>
    cases strict : readOffsetTime? s with
    | some moment =>
      obtain ⟨t, offset⟩ := moment
      have later : readLenientFirst s = .ok (t.universal offset) := by
        rw [readLenientFirst, found, strict]
      exact (readOffsetTime?_eq_some.1 strict).readUniversal.trans later.symm
    | none =>
      have first : readUniversal s = .error fault := by
        rw [readUniversal, strict]
        exact found
      have later : readLenientFirst s = .error fault := by rw [readLenientFirst, found, strict]
      exact first.trans later.symm

end Calendar

open Calendar (DateTime)
open Coercion (core)

/-- A text that names a point in universal time becomes the written form of it. -/
theorem coerce_dateTime_named {s : String} {u : DateTime} (named : u.Named (core s)) :
    coerce .dateTime (.string s) = .ok (.string (String.ofList u.text)) :=
  (coerce_plain_eq_ok rfl).2 ⟨nofun, Coercion.toDateTime_ok.2
    ⟨s, u, rfl, Calendar.readUniversal_eq_ok.2 named, rfl⟩⟩

/-- Only texts that name a point in universal time become one. -/
theorem named_of_coerce {s : String} {w : Json.Value}
    (converted : coerce .dateTime (.string s) = .ok w) : ∃ u : DateTime, u.Named (core s) := by
  have passed : Coercion.toDateTime (.string s) = .ok w := ((coerce_plain_eq_ok rfl).1 converted).2
  obtain ⟨_, u, same, found, -⟩ := Coercion.toDateTime_ok.1 passed
  obtain rfl := Json.Value.string.inj same
  exact ⟨u, Calendar.readUniversal_eq_ok.1 found⟩

/-- Coercion to points in time preserves the instant. A text of the strict form becomes the
written form of the minute of its local time less its offset, whatever days, months and years are
crossed on the way, with its second as it is and without its fraction; a text of the lenient form
becomes the written form of its time, taken as universal. Only texts of the two forms are accepted
and none has both, so that the forms can be tried in either order. Texts of the strict form that
name the same minute and second through any offsets become the same text. -/
theorem coerce_timestamp_instant (s : String) :
    (∀ (t : DateTime) (offset : Int), t.Strict offset (core s) → ∃ (u : DateTime) (w : String),
      coerce .dateTime (.string s) = .ok (.string w) ∧ u.Written w.toList ∧
        u.minuteNumber = t.minuteNumber - offset ∧ u.time.second = t.time.second) ∧
    (∀ t : DateTime, t.Lenient (core s) → ∃ w : String,
      coerce .dateTime (.string s) = .ok (.string w) ∧ t.Written w.toList) ∧
    ((∃ w, coerce .dateTime (.string s) = .ok w) ↔
      (∃ (t : DateTime) (offset : Int), t.Strict offset (core s)) ∨
        ∃ t : DateTime, t.Lenient (core s)) ∧
    (∀ (t : DateTime) (offset : Int), t.Strict offset (core s) →
      ∀ u : DateTime, ¬u.Lenient (core s)) ∧
    Calendar.readUniversal (core s) = Calendar.readLenientFirst (core s) ∧
    ∀ (s' : String) (t t' : DateTime) (offset offset' : Int), t.Strict offset (core s) →
      t'.Strict offset' (core s') → t.minuteNumber - offset = t'.minuteNumber - offset' →
        t.time.second = t'.time.second →
          coerce .dateTime (.string s) = coerce .dateTime (.string s') := by
  have written (u : DateTime) : u.Written (String.ofList u.text).toList := by
    rw [String.toList_ofList]
    exact u.text_written
  refine ⟨?_, ?_, ⟨?_, ?_⟩, ?_, Calendar.readUniversal_eq_readLenientFirst _, ?_⟩
  · intro t offset form
    obtain ⟨minute, second⟩ := form.moved
    exact ⟨_, _, coerce_dateTime_named (.strict form minute second), written _, minute, second⟩
  · intro t form
    exact ⟨_, coerce_dateTime_named (.lenient form), written t⟩
  · rintro ⟨w, converted⟩
    obtain ⟨u, named⟩ := named_of_coerce converted
    cases named with
    | strict form => exact .inl ⟨_, _, form⟩
    | lenient form => exact .inr ⟨u, form⟩
  · rintro (⟨t, offset, form⟩ | ⟨t, form⟩)
    · exact ⟨_, coerce_dateTime_named (.strict form form.moved.1 form.moved.2)⟩
    · exact ⟨_, coerce_dateTime_named (.lenient form)⟩
  · exact fun t offset form u => form.not_lenient u
  · intro s' t t' offset offset' form form' minute second
    obtain ⟨moved, kept⟩ := form.moved
    rw [coerce_dateTime_named (.strict form moved kept),
      coerce_dateTime_named (.strict form' (moved.trans minute) (kept.trans second))]

/-- A leap second in the first hour of a March is one at the end of February in universal time, a
leap day, and the same as one that is named through another offset. -/
theorem coerce_timestamp_instant_leapDay :
    coerce .dateTime (.string " 2024-03-01T00:30:60.999+01:00") =
        .ok (.string "2024-02-29T23:30:60Z") ∧
      coerce .dateTime (.string " 2024-03-01T00:30:60.999+01:00") =
        coerce .dateTime (.string "2024-02-29 18:00:60\u221205:30") := by
  have march : Calendar.readOffsetTime? (core " 2024-03-01T00:30:60.999+01:00") =
      some (⟨⟨2024, 3, 1, by decide, by decide⟩,
        ⟨0, 30, 60, by decide, by decide, by decide⟩⟩, 60) := by
    rfl
  have february : Calendar.readOffsetTime? (core "2024-02-29 18:00:60\u221205:30") =
      some (⟨⟨2024, 2, 29, by decide, by decide⟩,
        ⟨18, 0, 60, by decide, by decide, by decide⟩⟩, -330) := by
    rfl
  have law := coerce_timestamp_instant " 2024-03-01T00:30:60.999+01:00"
  have same := law.2.2.2.2.2 _ _ _ _ _ (Calendar.readOffsetTime?_eq_some.1 march)
    (Calendar.readOffsetTime?_eq_some.1 february) (by decide) rfl
  refine ⟨?_, same⟩
  rfl

end RecordTyping
