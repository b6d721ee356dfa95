import RecordTyping.Coercion
import RecordTyping.Proofs.CalendarReading

/-!
# What coercion yields

A value that is converted to a type inhabits the type, where this is said without the conversion: by
the kind of the value and, for dates and points in time, by the form of their text. What is yielded
for a type without points in time is left as it is when it is converted again. So is a point in
time of a four-digit year; one of any other year is refused, since its text starts with a sign.
-/

namespace RecordTyping

open Json (Value)

/-- When a value is one of a type. Integers are those of the signed and unsigned 64-bit words, and
doubles are finite; neither is ever the other. The text of a date is that of a real day, and the
text of a point in time is that of a real day with a time of day in universal time. -/
inductive Inhabits : Value → FieldType → Prop where
  | integer (n : Json.Integer) : Inhabits (.integer n) .integer
  | float (d : Binary64) : Inhabits (.double d) .float
  | string (s : String) : Inhabits (.string s) .string
  | boolean (b : Bool) : Inhabits (.bool b) .boolean
  | date {s : String} {d : Calendar.Date} (written : d.Written s.toList) :
    Inhabits (.string s) .date
  | dateTime {s : String} {t : Calendar.DateTime} (written : t.Written s.toList) :
    Inhabits (.string s) .dateTime
  | untyped (v : Value) : Inhabits v .untyped
  | null (inner : FieldType) : Inhabits .null (.nilable inner)
  | nilable {v : Value} {inner : FieldType} (inside : Inhabits v inner) :
    Inhabits v (.nilable inner)
  | array {items : List Value} {inner : FieldType} (each : ∀ item ∈ items, Inhabits item inner) :
    Inhabits (.array items) (.array inner)

/-- Null is a value of untyped and of nilable types only. -/
theorem Inhabits.null_admitted {ty : FieldType} (inhabits : Inhabits .null ty) :
    ty = .untyped ∨ ∃ inner, ty = .nilable inner := by
  cases inhabits with
  | untyped => exact .inl rfl
  | null inner => exact .inr ⟨inner, rfl⟩
  | nilable inside => exact .inr ⟨_, rfl⟩

namespace FieldType

/-- Whether a type is converted to by a rule of its own. -/
def isPlain : FieldType → Bool
  | .untyped => false
  | .nilable _ => false
  | .array _ => false
  | _ => true

/-- Whether no point in time occurs in a type. -/
def isTimeless : FieldType → Bool
  | .dateTime => false
  | .nilable inner => inner.isTimeless
  | .array inner => inner.isTimeless
  | _ => true

end FieldType

namespace Coercion

variable {v w : Value}

/-- A text without blanks is its own core. -/
theorem core_ofList {s : List Char} (unblank : ∀ c ∈ s, Text.isBlank c = false) :
    core (String.ofList s) = s := by
  rw [core, String.toList_ofList, Text.trim_eq_self unblank]

/-- An integral double becomes an integer. -/
theorem ofDouble_ok {d : Binary64} (converted : ofDouble d = .ok w) : ∃ n, w = .integer n := by
  unfold ofDouble at converted
  split at converted
  · split at converted
    · split at converted
      · exact ⟨_, (Except.ok.inj converted).symm⟩
      · cases converted
    · cases converted
  · cases converted

/-- A numeral becomes an integer. -/
theorem ofNumeral_ok {s : List Char} (converted : ofNumeral s = .ok w) : ∃ n, w = .integer n := by
  obtain ⟨number, -, found⟩ := Traversal.bind_eq_ok.1 converted
  split at found
  · exact ⟨_, (Except.ok.inj found).symm⟩
  · cases found

/-- The rule of integers yields integers. -/
theorem toInteger_ok (converted : toInteger v = .ok w) : ∃ n, w = .integer n := by
  cases v with
  | integer n => exact ⟨n, (Except.ok.inj converted).symm⟩
  | double d => exact ofDouble_ok converted
  | string s => exact ofNumeral_ok converted
  | _ => cases converted

/-- The rule of doubles succeeds exactly with the nearest double, and only if it is finite. -/
theorem toFloat_ok :
    toFloat v = .ok w ↔ ∃ d, nearestDouble? v = some (.finite d) ∧ w = .double d := by
  unfold toFloat
  cases nearestDouble? v with
  | none => simp
  | some d =>
    cases d with
    | finite d => simp [Double.isFinite, Value.ofDouble, eq_comm]
    | infinite negative => simp [Double.isFinite]
    | notANumber => simp [Double.isFinite]

/-- The rule of strings yields strings. -/
theorem toText_ok (converted : toText v = .ok w) : ∃ s, w = .string s := by
  cases v with
  | null => cases converted
  | array => cases converted
  | object => cases converted
  | _ => exact ⟨_, (Except.ok.inj converted).symm⟩

/-- The rule of truth values yields truth values. -/
theorem toBoolean_ok (converted : toBoolean v = .ok w) : ∃ b, w = .bool b := by
  unfold toBoolean at converted
  split at converted
  · exact ⟨_, (Except.ok.inj converted).symm⟩
  · cases converted

/-- The rule of dates succeeds exactly on the texts of dates, with the normal form of the date. -/
theorem toDate_ok : toDate v = .ok w ↔ ∃ s d, v = .string s ∧
    Calendar.readDate (core s) = .ok d ∧ w = .string (String.ofList d.text) := by
  cases v with
  | string s =>
    cases found : Calendar.readDate (core s) with
    | ok d => simp [toDate, found, eq_comm]
    | error fault => simp [toDate, found]
  | _ => simp [toDate]

/-- The rule of points in time succeeds exactly on the texts of points in time, with the normal form
in universal time. -/
theorem toDateTime_ok : toDateTime v = .ok w ↔ ∃ s t, v = .string s ∧
    Calendar.readUniversal (core s) = .ok t ∧ w = .string (String.ofList t.text) := by
  cases v with
  | string s =>
    cases found : Calendar.readUniversal (core s) with
    | ok t => simp [toDateTime, found, eq_comm]
    | error fault => simp [toDateTime, found]
  | _ => simp [toDateTime]

/-- The text of a date of a year that is read is left as it is. -/
theorem toDate_text {d : Calendar.Date} (readable : Calendar.Readable d.year) :
    toDate (.string (String.ofList d.text)) = .ok (.string (String.ofList d.text)) := by
  have found := Calendar.readDate_written d.text_written readable
  simp only [toDate, core_ofList d.text_written.unblank, found]

/-- The text of a point in time of a four-digit year is left as it is. -/
theorem toDateTime_text {t : Calendar.DateTime} (plain : Calendar.FourDigit t.date.year) :
    toDateTime (.string (String.ofList t.text)) = .ok (.string (String.ofList t.text)) := by
  have found := Calendar.readUniversal_written t.text_written plain
  simp only [toDateTime, core_ofList t.text_written.unblank, found]

/-- The text of a point in time of any other year is refused. -/
theorem toDateTime_signed {t : Calendar.DateTime} (signed : ¬Calendar.FourDigit t.date.year)
    (readable : Calendar.Readable t.date.year) :
    toDateTime (.string (String.ofList t.text)) = .error (.calendar .badCharacter) := by
  have found := Calendar.readUniversal_signed t.text_written signed readable
  simp only [toDateTime, core_ofList t.text_written.unblank, found]

/-- A rule of its own yields inhabitants of its type. -/
theorem convert_inhabits {ty : FieldType} (plain : ty.isPlain = true)
    (converted : convert ty v = .ok w) : Inhabits w ty := by
  cases ty with
  | integer =>
    obtain ⟨n, rfl⟩ := toInteger_ok converted
    exact .integer n
  | float =>
    obtain ⟨d, -, rfl⟩ := toFloat_ok.1 converted
    exact .float d
  | string =>
    obtain ⟨s, rfl⟩ := toText_ok converted
    exact .string s
  | boolean =>
    obtain ⟨b, rfl⟩ := toBoolean_ok converted
    exact .boolean b
  | date =>
    obtain ⟨-, d, -, -, rfl⟩ := toDate_ok.1 converted
    have written : d.Written (String.ofList d.text).toList := by
      rw [String.toList_ofList]
      exact d.text_written
    exact .date written
  | dateTime =>
    obtain ⟨-, t, -, -, rfl⟩ := toDateTime_ok.1 converted
    have written : t.Written (String.ofList t.text).toList := by
      rw [String.toList_ofList]
      exact t.text_written
    exact .dateTime written
  | untyped => cases plain
  | nilable => cases plain
  | array => cases plain

/-- A rule of its own never yields null. -/
theorem convert_ne_null {ty : FieldType} (plain : ty.isPlain = true)
    (converted : convert ty v = .ok w) : w ≠ .null := by
  rintro rfl
  rcases (convert_inhabits plain converted).null_admitted with rfl | ⟨inner, rfl⟩
  · cases plain
  · cases plain

/-- What a rule other than that of points in time yields is left as it is by the rule. -/
theorem convert_convert {ty : FieldType} (plain : ty.isPlain = true)
    (timeless : ty.isTimeless = true) (converted : convert ty v = .ok w) :
    convert ty w = .ok w := by
  cases ty with
  | integer =>
    obtain ⟨n, rfl⟩ := toInteger_ok converted
    rfl
  | float =>
    obtain ⟨d, -, rfl⟩ := toFloat_ok.1 converted
    rfl
  | string =>
    obtain ⟨s, rfl⟩ := toText_ok converted
    rfl
  | boolean =>
    obtain ⟨b, rfl⟩ := toBoolean_ok converted
    rfl
  | date =>
    obtain ⟨_, d, _, found, rfl⟩ := toDate_ok.1 converted
    rw [convert, toDate_text (Calendar.readDate_readable found)]
  | dateTime => cases timeless
  | untyped => cases plain
  | nilable => cases plain
  | array => cases plain

end Coercion

section Coerce

variable {ty inner : FieldType} {v w : Value}

/-- Null is refused by every type with a rule of its own. -/
theorem coerce_plain_null (plain : ty.isPlain = true) :
    coerce ty .null = .error ⟨ty, .null, .notNilable⟩ := by
  cases ty with
  | untyped => cases plain
  | nilable => cases plain
  | array => cases plain
  | _ => rfl

/-- Every other value is converted by the rule of its type. -/
theorem coerce_plain (plain : ty.isPlain = true) (present : v ≠ .null) :
    coerce ty v = (Coercion.convert ty v).mapError fun reason => ⟨ty, v, reason⟩ := by
  cases ty with
  | untyped => cases plain
  | nilable => cases plain
  | array => cases plain
  | _ =>
    cases v with
    | null => exact absurd rfl present
    | _ => rfl

/-- A type with a rule of its own takes what the rule takes, null apart. -/
theorem coerce_plain_eq_ok (plain : ty.isPlain = true) :
    coerce ty v = .ok w ↔ v ≠ .null ∧ Coercion.convert ty v = .ok w := by
  by_cases present : v = .null
  · rw [present, coerce_plain_null plain]
    simp
  · rw [coerce_plain plain present, Traversal.mapError_eq_ok]
    simp [present]

/-- Null stays null in a nilable type, and every other value is converted to the type inside. -/
theorem coerce_nilable_eq_ok : coerce (.nilable inner) v = .ok w ↔
    (v = .null ∧ w = .null) ∨ (v ≠ .null ∧ coerce inner v = .ok w) := by
  cases v <;> simp [coerce, eq_comm]

/-- An array is converted item by item, and no other value becomes an array. -/
theorem coerce_array_eq_ok : coerce (.array inner) v = .ok w ↔ ∃ items results,
    v = .array items ∧ items.mapM (coerce inner) = .ok results ∧ .array results = w := by
  cases v with
  | array items =>
    rw [coerce, Traversal.map_eq_ok]
    constructor
    · rintro ⟨results, each, whole⟩
      exact ⟨items, results, rfl, each, whole⟩
    · rintro ⟨_, results, same, each, whole⟩
      obtain rfl := Value.array.inj same
      exact ⟨results, each, whole⟩
  | _ => simp [coerce, Coercion.convert, Except.mapError]

/-- What coercion yields inhabits the type. -/
theorem inhabits_of_coerce (converted : coerce ty v = .ok w) : Inhabits w ty := by
  induction ty generalizing v w with
  | untyped => exact .untyped w
  | nilable inner ih =>
    rcases coerce_nilable_eq_ok.1 converted with ⟨-, rfl⟩ | ⟨-, inside⟩
    · exact .null inner
    · exact .nilable (ih inside)
  | array inner ih =>
    obtain ⟨items, results, rfl, each, rfl⟩ := coerce_array_eq_ok.1 converted
    refine .array fun result member => ?_
    obtain ⟨item, -, passed⟩ := Traversal.mapM_ok_results each result member
    exact ih passed
  | _ => exact Coercion.convert_inhabits rfl ((coerce_plain_eq_ok rfl).1 converted).2

/-- Coercion is sound for types: what it yields inhabits the type that was asked for. So null is
yielded for untyped and nilable types alone. For doubles the number that is written is
always finite, so that it never becomes null on the way. -/
theorem coerce_sound (converted : coerce ty v = .ok w) :
    Inhabits w ty ∧ (w = .null → ty = .untyped ∨ ∃ inner, ty = .nilable inner) ∧
      (ty = .float → ∃ d, Coercion.nearestDouble? v = some d ∧ d.isFinite = true ∧
        .ofDouble d = w ∧ w ≠ .null) := by
  have inhabits := inhabits_of_coerce converted
  refine ⟨inhabits, ?_, ?_⟩
  · rintro rfl
    exact inhabits.null_admitted
  · rintro rfl
    have passed := ((coerce_plain_eq_ok rfl).1 converted).2
    obtain ⟨d, nearest, rfl⟩ := Coercion.toFloat_ok.1 passed
    exact ⟨.finite d, nearest, rfl, rfl, by simp⟩

/-- One and a half. -/
def threeHalves : Binary64 := ⟨false, 0x3FF8000000000000, by decide⟩

/-- The text of a finite double becomes the double, which inhabits its type. -/
theorem coerce_sound_threeHalves :
    coerce .float (.string " +15e-1 ") = .ok (.double threeHalves) ∧
      Inhabits (.double threeHalves) .float ∧
      ∃ d, Coercion.nearestDouble? (.string " +15e-1 ") = some d ∧ d.isFinite = true := by
  have read : Coercion.nearestDouble? (.string " +15e-1 ") = some (.finite threeHalves) := by
    decide +kernel
  have rule : Coercion.convert .float (.string " +15e-1 ") = .ok (.double threeHalves) := by
    rw [Coercion.convert, Coercion.toFloat_ok]
    exact ⟨threeHalves, read, rfl⟩
  have converted : coerce .float (.string " +15e-1 ") = .ok (.double threeHalves) := by
    rw [coerce_plain_eq_ok rfl]
    exact ⟨by simp, rule⟩
  obtain ⟨inhabits, -, finite⟩ := coerce_sound converted
  obtain ⟨d, nearest, isFinite, -⟩ := finite rfl
  exact ⟨converted, inhabits, d, nearest, isFinite⟩

/-- Coercion to a type without points in time is idempotent: what it yields is left as it is. -/
theorem coerce_idempotent (timeless : ty.isTimeless = true) (converted : coerce ty v = .ok w) :
    coerce ty w = .ok w := by
  induction ty generalizing v w with
  | untyped => rfl
  | nilable inner ih =>
    rcases coerce_nilable_eq_ok.1 converted with ⟨-, rfl⟩ | ⟨-, inside⟩
    · rfl
    · by_cases absent : w = .null
      · exact coerce_nilable_eq_ok.2 (.inl ⟨absent, absent⟩)
      · exact coerce_nilable_eq_ok.2 (.inr ⟨absent, ih timeless inside⟩)
  | array inner ih =>
    obtain ⟨items, results, rfl, each, rfl⟩ := coerce_array_eq_ok.1 converted
    have again : results.mapM (coerce inner) = .ok results := by
      have fixed : ∀ result ∈ results, coerce inner result = .ok (id result) := by
        intro result member
        obtain ⟨item, -, passed⟩ := Traversal.mapM_ok_results each result member
        exact ih timeless passed
      rw [Traversal.mapM_eq_ok_map fixed, List.map_id]
    exact coerce_array_eq_ok.2 ⟨results, results, rfl, again, rfl⟩
  | _ =>
    have passed := ((coerce_plain_eq_ok rfl).1 converted).2
    exact (coerce_plain_eq_ok rfl).2 ⟨Coercion.convert_ne_null rfl passed,
      Coercion.convert_convert rfl timeless passed⟩

/-- Dates of any year are left as they are once they are in their normal form. -/
theorem coerce_idempotent_dates :
    coerce (.array (.nilable .date)) (.array [.string " +10000-1-2", .null, .string "-1-02-3"]) =
        .ok (.array [.string "+10000-01-02", .null, .string "-0001-02-03"]) ∧
      coerce (.array (.nilable .date))
          (.array [.string "+10000-01-02", .null, .string "-0001-02-03"]) =
        .ok (.array [.string "+10000-01-02", .null, .string "-0001-02-03"]) := by
  have converted : coerce (.array (.nilable .date))
      (.array [.string " +10000-1-2", .null, .string "-1-02-3"]) =
        .ok (.array [.string "+10000-01-02", .null, .string "-0001-02-03"]) := by rfl
  exact ⟨converted, coerce_idempotent rfl converted⟩

/-- The text of a point in time becomes its normal form in universal time. For a four-digit year
this has the strict form and is left as it is. The normal form of any other year starts with a sign:
it has not the strict form, and it is refused where it came from. -/
theorem coerce_timestamp_normalizes {s : String}
    (converted : coerce .dateTime (.string s) = .ok w) :
    ∃ t : Calendar.DateTime, Calendar.readUniversal (Coercion.core s) = .ok t ∧
      w = .string (String.ofList t.text) ∧
      (Calendar.FourDigit t.date.year →
        Calendar.readOffsetTime? t.text = some (t, 0) ∧ coerce .dateTime w = .ok w) ∧
      (¬Calendar.FourDigit t.date.year →
        Calendar.readOffsetTime? t.text = none ∧
          coerce .dateTime w = .error ⟨.dateTime, w, .calendar .badCharacter⟩) := by
  have rule (text : String) : coerce .dateTime (.string text) =
      (Coercion.toDateTime (.string text)).mapError
        fun reason => ⟨.dateTime, .string text, reason⟩ :=
    coerce_plain rfl nofun
  rw [rule, Traversal.mapError_eq_ok, Coercion.toDateTime_ok] at converted
  obtain ⟨_, t, same, found, rfl⟩ := converted
  obtain rfl := Value.string.inj same
  refine ⟨t, found, rfl, fun plain => ⟨?_, ?_⟩, fun signed => ⟨?_, ?_⟩⟩
  · exact Calendar.readOffsetTime?_written t.text_written plain
  · rw [rule, Coercion.toDateTime_text plain]
    rfl
  · exact Calendar.readOffsetTime?_signed t.text_written signed
  · have readable := Calendar.readUniversal_readable found
    rw [rule, Coercion.toDateTime_signed signed readable]
    rfl

/-- A point in time at an offset becomes a text that is left as it is. -/
theorem coerce_timestamp_normalizes_offset :
    coerce .dateTime (.string " 2024-03-01t00:30:00.25+01:00") =
        .ok (.string "2024-02-29T23:30:00Z") ∧
      coerce .dateTime (.string "2024-02-29T23:30:00Z") = .ok (.string "2024-02-29T23:30:00Z") := by
  have converted : coerce .dateTime (.string " 2024-03-01t00:30:00.25+01:00") =
      .ok (.string "2024-02-29T23:30:00Z") := by rfl
  obtain ⟨t, found, -, plain, -⟩ := coerce_timestamp_normalizes converted
  have year : (Calendar.readUniversal (Coercion.core " 2024-03-01t00:30:00.25+01:00")).map
      (fun t => t.date.year) = .ok 2024 := by rfl
  rw [found] at year
  have same : t.date.year = 2024 := Except.ok.inj year
  have fourDigit : Calendar.FourDigit t.date.year := by
    rw [same]
    decide
  exact ⟨converted, (plain fourDigit).2⟩

/-- The last hour of the four-digit years west of the prime meridian is in no four-digit year of
universal time: its normal form is neither strict nor left as it is. -/
theorem coerce_timestamp_beyond_fourDigit :
    coerce .dateTime (.string "9999-12-31T23:30:00-01:00") =
        .ok (.string "+10000-01-01T00:30:00Z") ∧
      Calendar.readOffsetTime? "+10000-01-01T00:30:00Z".toList = none ∧
      coerce .dateTime (.string "+10000-01-01T00:30:00Z") =
        .error ⟨.dateTime, .string "+10000-01-01T00:30:00Z", .calendar .badCharacter⟩ := by
  refine ⟨?_, ?_, ?_⟩ <;> rfl

end Coerce

end RecordTyping
