import RecordTyping.Proofs.LenientForm

/-!
# The strict form of points in time

The grammar of the strict form, said without its reader: a date and a time of day with the full
number of digits in each part, a fraction of a second that may be missing, and the offset from
universal time. The reader takes exactly these texts, each as the local time and the offset
that it names. None of them has the lenient form too: what follows its seconds is no part of that.
-/

namespace RecordTyping.Calendar

open Text (Digits)

/-- A fraction of a second, or none: a point and digits, of which there is at least one. -/
inductive Fraction : List Char → Prop where
  | missing : Fraction []
  | digits {run : List Char} (filled : run ≠ []) (each : ∀ c ∈ run, c.isDigit = true) :
    Fraction ('.' :: run)

/-- The minutes of an offset as hours and minutes with two digits each. -/
inductive OffsetDigits : Nat → List Char → Prop where
  | parts {hour minute : Nat} {hours minutes : List Char} (hourDigits : Digits 2 hour hours)
      (minuteDigits : Digits 2 minute minutes) (hour_lt : hour < 24) (minute_lt : minute < 60) :
    OffsetDigits (hour * 60 + minute) (hours ++ ':' :: minutes)

/-- An offset from universal time in minutes: the letter Z for none, or a sign and its digits. The
minus sign may be a hyphen or the sign of mathematics. -/
inductive Offset : Int → List Char → Prop where
  | universal {letter : Char} (zulu : letter = 'Z' ∨ letter = 'z') : Offset 0 [letter]
  | east {minutes : Nat} {s : List Char} (digits : OffsetDigits minutes s) :
    Offset minutes ('+' :: s)
  | west {minutes : Nat} {sign : Char} {s : List Char} (minus : sign = '-' ∨ sign = '\u2212')
      (digits : OffsetDigits minutes s) : Offset (-minutes) (sign :: s)

/-- A local time and its offset from universal time. The year has four digits and every other part
of the time two; the mark between the date and the time of day is the letter T or a space. -/
inductive DateTime.Strict (t : DateTime) (offset : Int) : List Char → Prop where
  | parts {number : Nat} {mark : Char} {year month day hour minute second fraction zone : List Char}
      (same : t.date.year = number) (years : Digits 4 number year)
      (months : Digits 2 t.date.month month) (days : Digits 2 t.date.day day)
      (between : mark = 'T' ∨ mark = 't' ∨ mark = ' ') (hours : Digits 2 t.time.hour hour)
      (minutes : Digits 2 t.time.minute minute) (seconds : Digits 2 t.time.second second)
      (fractions : Fraction fraction) (zones : Offset offset zone) :
    t.Strict offset (year ++ '-' :: month ++ '-' :: day ++ mark ::
      hour ++ ':' :: minute ++ ':' :: second ++ fraction ++ zone)

variable {width number minutes : Nat} {offset : Int} {s rest : List Char} {t : DateTime}

/-! ## The parts -/

/-- A number of a width is taken off the front of a text exactly if its digits stand there. -/
theorem fixedNumber?_eq_some : fixedNumber? width s = some (number, rest) ↔
    ∃ run, s = run ++ rest ∧ Digits width number run := by
  constructor
  · intro found
    simp only [fixedNumber?] at found
    split at found
    · next shape =>
      obtain ⟨rfl, rfl⟩ := Prod.mk.inj (Option.some.inj found)
      simp only [Bool.and_eq_true, decide_eq_true_eq, List.all_eq_true] at shape
      exact ⟨s.take width, (List.take_append_drop width s).symm, shape.2, shape.1, rfl⟩
    · cases found
  · rintro ⟨run, rfl, digits⟩
    exact fixedNumber?_digits digits rest

/-- A separator is taken off the front of a text exactly if it stands there. -/
theorem separator?_eq_some {mark : Char} : separator? mark s = some rest ↔ s = mark :: rest := by
  cases s with
  | nil => simp [separator?]
  | cons c tail =>
    by_cases same : c = mark
    · simp [separator?, same]
    · simp [separator?, same]

/-- The mark between a date and a time of day is taken off exactly if it is one of the three. -/
theorem timeMark?_eq_some : timeMark? s = some rest ↔
    ∃ mark, (mark = 'T' ∨ mark = 't' ∨ mark = ' ') ∧ s = mark :: rest := by
  cases s with
  | nil => simp [timeMark?]
  | cons c tail =>
    by_cases between : c = 'T' ∨ c = 't' ∨ c = ' '
    · simp only [timeMark?, if_pos between, Option.some.injEq, List.cons.injEq]
      constructor
      · exact fun same => ⟨c, between, rfl, same⟩
      · exact fun ⟨_, _, _, same⟩ => same
    · simp only [timeMark?, if_neg between, reduceCtorEq, List.cons.injEq, false_iff]
      rintro ⟨mark, one, rfl, -⟩
      exact between one

/-- A fraction is taken off the front of a text if one stands there, and else the text is left as it
is. -/
theorem skipFraction?_form (found : skipFraction? s = some rest) :
    ∃ fraction, s = fraction ++ rest ∧ Fraction fraction := by
  unfold skipFraction? at found
  split at found
  · next after =>
    split at found
    · cases found
    · next filled =>
      obtain rfl := Option.some.inj found
      refine ⟨'.' :: after.takeWhile Char.isDigit, ?_, .digits ?_ ?_⟩
      · rw [List.cons_append, List.takeWhile_append_dropWhile]
      · exact fun empty => filled (by rw [empty]; rfl)
      · exact fun c member => List.mem_takeWhile_imp member
  · exact ⟨[], (Option.some.inj found).symm ▸ rfl, .missing⟩

/-- A fraction is dropped where what follows is neither a digit nor a point. -/
theorem Fraction.skipped {fraction : List Char} (form : Fraction fraction) {c : Char}
    (mark : c.isDigit = false) (point : c ≠ '.') (rest : List Char) :
    skipFraction? (fraction ++ c :: rest) = some (c :: rest) := by
  cases form with
  | missing =>
    unfold skipFraction?
    split
    · next same => exact absurd (List.cons.inj same).1 point
    · rfl
  | @digits run filled each =>
    have ends : ∀ d ∈ (c :: rest).head?, d.isDigit = false :=
      fun d first => Option.some.inj first ▸ mark
    have taken : (run ++ c :: rest).takeWhile Char.isDigit = run := Text.takeWhile_run each ends
    have left : (run ++ c :: rest).dropWhile Char.isDigit = c :: rest :=
      Text.dropWhile_run each ends
    have kept : run.isEmpty = false := List.isEmpty_eq_false_iff.2 filled
    simp only [skipFraction?, List.cons_append, taken, left, kept, Bool.false_eq_true, ↓reduceIte]

/-- The digits of an offset are its hours and minutes, of less than a day together. -/
theorem OffsetDigits.lt (form : OffsetDigits minutes s) : minutes < 1440 := by
  cases form with
  | parts _ _ hour_lt minute_lt => omega

/-- An offset is of less than a day. -/
theorem Offset.within (form : Offset offset s) : offset.natAbs < 1440 := by
  cases form with
  | universal => decide
  | east digits =>
    have below := digits.lt
    omega
  | west minus digits =>
    have below := digits.lt
    omega

/-- An offset starts with a letter or a sign. -/
theorem Offset.front (form : Offset offset s) :
    ∃ c tail, s = c :: tail ∧ c.isDigit = false ∧ c ≠ '.' := by
  cases form with
  | @universal letter zulu =>
    refine ⟨letter, [], rfl, ?_⟩
    rcases zulu with rfl | rfl <;> decide
  | @east _ tail => exact ⟨'+', tail, rfl, by decide⟩
  | @west _ sign tail minus =>
    refine ⟨sign, tail, rfl, ?_⟩
    rcases minus with rfl | rfl <;> decide

/-- The digits after a sign are read as the minutes that they write, with the sign. -/
theorem offset_digits (minus : Bool) : (do
      let (hours, rest) ← fixedNumber? 2 s
      let rest ← separator? ':' rest
      let (minutes, rest) ← fixedNumber? 2 rest
      if rest.isEmpty && hours < 24 && minutes < 60 then
        let offset : Nat := hours * 60 + minutes
        some (if minus then -(offset : Int) else offset)
      else none) = some offset ↔
    ∃ minutes, OffsetDigits minutes s ∧ (if minus then -(minutes : Int) else minutes) = offset := by
  constructor
  · intro found
    obtain ⟨⟨hour, _⟩, hours, found⟩ := Option.bind_eq_some_iff.1 found
    obtain ⟨_, mark, found⟩ := Option.bind_eq_some_iff.1 found
    obtain ⟨⟨minute, _⟩, minutes, ranged⟩ := Option.bind_eq_some_iff.1 found
    dsimp only at ranged
    split at ranged
    · next shape =>
      simp only [Bool.and_eq_true, List.isEmpty_iff, decide_eq_true_eq] at shape
      obtain ⟨⟨rfl, hour_lt⟩, minute_lt⟩ := shape
      obtain rfl := separator?_eq_some.1 mark
      obtain ⟨hourRun, rfl, hourDigits⟩ := fixedNumber?_eq_some.1 hours
      obtain ⟨minuteRun, rfl, minuteDigits⟩ := fixedNumber?_eq_some.1 minutes
      rw [List.append_nil]
      exact ⟨_, .parts hourDigits minuteDigits hour_lt minute_lt, Option.some.inj ranged⟩
    · cases ranged
  · rintro ⟨_, ⟨hours, minutes, hour_lt, minute_lt⟩, rfl⟩
    have last := fixedNumber?_digits minutes []
    rw [List.append_nil] at last
    simp only [fixedNumber?_digits hours, separator?, last, bind, Option.bind, hour_lt, minute_lt,
      List.isEmpty_nil, decide_true, Bool.and_self, ↓reduceIte]

/-- Exactly the texts of the form of an offset are read as the offset. -/
theorem readOffset?_eq_some : readOffset? s = some offset ↔ Offset offset s := by
  constructor
  · intro found
    unfold readOffset? at found
    split at found
    · obtain rfl := Option.some.inj found
      exact .universal (.inl rfl)
    · obtain rfl := Option.some.inj found
      exact .universal (.inr rfl)
    · dsimp only at found
      split at found
      · next plus =>
        obtain ⟨minutes, digits, rfl⟩ := (offset_digits false).1 found
        exact plus ▸ .east digits
      · split at found
        · next minus =>
          obtain ⟨minutes, digits, rfl⟩ := (offset_digits true).1 found
          exact .west (minus.imp_right fun code => Char.toNat_inj.1 code) digits
        · cases found
    · cases found
  · intro form
    cases form with
    | universal zulu => rcases zulu with rfl | rfl <;> rfl
    | @east minutes s digits =>
      have read := (offset_digits false).2 ⟨minutes, digits, rfl⟩
      exact read
    | @west minutes sign s minus digits =>
      have read := (offset_digits true).2 ⟨minutes, digits, rfl⟩
      rcases minus with rfl | rfl
      · exact read
      · exact read

/-! ## The whole -/

/-- Exactly the texts of the strict form are read as the local time and the offset. -/
theorem readOffsetTime?_eq_some :
    readOffsetTime? s = some (t, offset) ↔ t.Strict offset s := by
  constructor
  · intro found
    unfold readOffsetTime? at found
    obtain ⟨⟨year, _⟩, years, found⟩ := Option.bind_eq_some_iff.1 found
    obtain ⟨_, hyphen, found⟩ := Option.bind_eq_some_iff.1 found
    obtain ⟨⟨month, _⟩, months, found⟩ := Option.bind_eq_some_iff.1 found
    obtain ⟨_, hyphen', found⟩ := Option.bind_eq_some_iff.1 found
    obtain ⟨⟨day, _⟩, days, found⟩ := Option.bind_eq_some_iff.1 found
    obtain ⟨_, between, found⟩ := Option.bind_eq_some_iff.1 found
    obtain ⟨⟨hour, _⟩, hours, found⟩ := Option.bind_eq_some_iff.1 found
    obtain ⟨_, colon, found⟩ := Option.bind_eq_some_iff.1 found
    obtain ⟨⟨minute, _⟩, minutes, found⟩ := Option.bind_eq_some_iff.1 found
    obtain ⟨_, colon', found⟩ := Option.bind_eq_some_iff.1 found
    obtain ⟨⟨second, _⟩, seconds, found⟩ := Option.bind_eq_some_iff.1 found
    obtain ⟨_, fractions, found⟩ := Option.bind_eq_some_iff.1 found
    obtain ⟨_, zones, found⟩ := Option.bind_eq_some_iff.1 found
    obtain ⟨date, dates, found⟩ := Option.bind_eq_some_iff.1 found
    obtain ⟨time, times, found⟩ := Option.bind_eq_some_iff.1 found
    obtain ⟨rfl, rfl⟩ := Prod.mk.inj (Option.some.inj found)
    obtain ⟨same, rfl, rfl⟩ := Date.ofParts?_eq_some.1 dates
    obtain ⟨rfl, rfl, rfl⟩ := Time.ofParts?_eq_some.1 times
    obtain ⟨yearText, rfl, yearDigits⟩ := fixedNumber?_eq_some.1 years
    obtain rfl := separator?_eq_some.1 hyphen
    obtain ⟨monthText, rfl, monthDigits⟩ := fixedNumber?_eq_some.1 months
    obtain rfl := separator?_eq_some.1 hyphen'
    obtain ⟨dayText, rfl, dayDigits⟩ := fixedNumber?_eq_some.1 days
    obtain ⟨mark, one, rfl⟩ := timeMark?_eq_some.1 between
    obtain ⟨hourText, rfl, hourDigits⟩ := fixedNumber?_eq_some.1 hours
    obtain rfl := separator?_eq_some.1 colon
    obtain ⟨minuteText, rfl, minuteDigits⟩ := fixedNumber?_eq_some.1 minutes
    obtain rfl := separator?_eq_some.1 colon'
    obtain ⟨secondText, rfl, secondDigits⟩ := fixedNumber?_eq_some.1 seconds
    obtain ⟨fraction, rfl, fractionForm⟩ := skipFraction?_form fractions
    have form : DateTime.Strict ⟨date, time⟩ _ _ := .parts same yearDigits monthDigits dayDigits one
      hourDigits minuteDigits secondDigits fractionForm (readOffset?_eq_some.1 zones)
    simpa only [List.append_assoc, List.cons_append] using form
  · rintro ⟨same, years, months, days, between, hours, minutes, seconds, fractions, zones⟩
    obtain ⟨c, tail, rfl, mark, point⟩ := zones.front
    have read := readOffset?_eq_some.2 zones
    have date := Date.ofParts?_eq_some.2 ⟨same, rfl, rfl⟩
    have time : Time.ofParts? t.time.hour t.time.minute t.time.second = some t.time :=
      Time.ofParts?_eq_some.2 ⟨rfl, rfl, rfl⟩
    simp only [readOffsetTime?, List.append_assoc, List.cons_append, fixedNumber?_digits years,
      fixedNumber?_digits months, fixedNumber?_digits days, fixedNumber?_digits hours,
      fixedNumber?_digits minutes, fixedNumber?_digits seconds, separator?, timeMark?, between,
      fractions.skipped mark point, read, date, time, bind, Option.bind, pure, ↓reduceIte]

/-! ## The two forms are apart -/

/-- The years that the strict form can write. -/
def FourDigit (year : Int) : Prop := 0 ≤ year ∧ year ≤ 9999

instance decidableFourDigit (year : Int) : Decidable (FourDigit year) :=
  inferInstanceAs (Decidable (_ ∧ _))

/-- The years that the strict form can write are read. -/
theorem FourDigit.readable {year : Int} (plain : FourDigit year) : Readable year := by
  have low : minYear = -262143 := rfl
  have high : maxYear = 262142 := rfl
  unfold FourDigit at plain
  unfold Readable
  omega

/-- As many digits as are asked for are a number, whatever follows them. -/
theorem LenientNumber.full (digits : Digits width number s) (filled : 0 < width)
    (rest : List Char) : LenientNumber width number rest s :=
  .spaced (fun _ member => absurd member List.not_mem_nil) digits filled (Nat.le_refl width)
    (.inl rfl)

/-- Four digits are a four-digit year. -/
theorem fourDigit_digits (digits : Digits 4 number s) : FourDigit number := by
  have bound : number < 10 ^ 4 := digits.value ▸ digits.length ▸ Text.digitsValue_lt s
  exact ⟨by omega, by omega⟩

/-- The strict form has a four-digit year. -/
theorem DateTime.Strict.fourDigit (form : t.Strict offset s) : FourDigit t.date.year := by
  cases form with
  | parts same years => exact same ▸ fourDigit_digits years

/-- The date of the strict form has the lenient form too, whatever follows it. -/
theorem Date.lenient_full {d : Date} {year month day : List Char} (same : d.year = number)
    (years : Digits 4 number year) (months : Digits 2 d.month month) (days : Digits 2 d.day day)
    (rest : List Char) : d.Lenient rest (year ++ '-' :: month ++ '-' :: day) := by
  have readable : Readable d.year := same ▸ (fourDigit_digits years).readable
  have form : LenientYear d.year year := same ▸ .plain (.full years (by decide) _)
  exact .parts readable form (.full months (by decide) _) (.full days (by decide) _)

/-- No number starts with a letter. -/
theorem readPart_mark {c : Char} (visible : Text.isBlank c = false) (mark : c.isDigit = false)
    (limit low high : Nat) (rest : List Char) :
    readPart limit low high (c :: rest) = .error .badCharacter := by
  rw [readPart, Text.trimStart_cons rest visible, readNumber_mark mark]
  rfl

/-- No time of day of the lenient form stands where more is left after the seconds. -/
theorem readLocal_more {d : Date} {time : Time} {date hour minute second rest : List Char}
    {c : Char} (dates : d.Lenient (' ' :: hour ++ ':' :: minute ++ ':' :: second ++ c :: rest) date)
    (hours : Digits 2 time.hour hour) (minutes : Digits 2 time.minute minute)
    (seconds : Digits 2 time.second second) :
    readLocal (date ++ ' ' :: hour ++ ':' :: minute ++ ':' :: second ++ c :: rest) =
      .error .trailing := by
  have wide : 60 ≤ maxNumber := by decide
  have hour_lt := time.hour_lt
  have minute_lt := time.minute_lt
  have second_le := time.second_le
  have spaced : LenientNumber 2 time.hour (':' :: (minute ++ ':' :: (second ++ c :: rest)))
      ([' '] ++ hour) :=
    .spaced (List.all_eq_true.1 rfl) hours (by decide) (Nat.le_refl 2) (.inl rfl)
  have date_read := dates.read
  have hour_read := spaced.read (by omega) ⟨Nat.zero_le _, show _ ≤ 23 by omega⟩
  have minute_read := (LenientNumber.full minutes (by decide)
    (':' :: (second ++ c :: rest))).read (by omega) ⟨Nat.zero_le _, show _ ≤ 59 by omega⟩
  have second_read := (LenientNumber.full seconds (by decide) (c :: rest)).read (by omega)
    ⟨Nat.zero_le _, second_le⟩
  simp only [List.append_assoc, List.cons_append, List.nil_append] at date_read hour_read
  simp only [readLocal, List.append_assoc, List.cons_append, date_read, readPart_trimStart,
    hour_read, minute_read, second_read, expect, expectEnd, bind, Except.bind, ↓reduceIte]

/-- No date of the lenient form goes on with a letter and has a time of day. -/
theorem readLocal_letter {d : Date} {date rest : List Char} {c : Char}
    (dates : d.Lenient (c :: rest) date) (visible : Text.isBlank c = false)
    (mark : c.isDigit = false) : readLocal (date ++ c :: rest) = .error .badCharacter := by
  have hour := readPart_mark visible mark 2 0 23 rest
  simp only [readLocal, dates.read, readPart_trimStart, hour, bind, Except.bind]

/-- No text of the strict form has the lenient form: after the date stands a letter, or else
something is left after the seconds. -/
theorem DateTime.Strict.not_lenient (form : t.Strict offset s) (u : DateTime) : ¬u.Lenient s := by
  obtain ⟨same, years, months, days, between, hours, minutes, seconds, fractions, zones⟩ := form
  rename_i number mark year month day hour minute second fraction zone
  have dates := Date.lenient_full same years months days
  obtain ⟨c, tail, left⟩ : ∃ c tail, fraction ++ zone = c :: tail := by
    obtain ⟨c, tail, rfl, -⟩ := zones.front
    cases fractions with
    | missing => exact ⟨c, tail, rfl⟩
    | digits => exact ⟨_, _, rfl⟩
  intro lenient
  rw [← readLocal_eq_ok, List.append_assoc, left] at lenient
  have letter (visible : Text.isBlank mark = false) (plain : mark.isDigit = false) : False := by
    have refused := readLocal_letter
      (dates (mark :: (hour ++ ':' :: minute ++ ':' :: second ++ c :: tail))) visible plain
    simp only [List.append_assoc, List.cons_append] at refused lenient
    rw [refused] at lenient
    cases lenient
  rcases between with rfl | rfl | rfl
  · exact letter rfl rfl
  · exact letter rfl rfl
  · rw [readLocal_more (dates _) hours minutes seconds] at lenient
    cases lenient

end RecordTyping.Calendar
