import RecordTyping.Proofs.CalendarText
import RecordTyping.Proofs.Traversal

/-!
# The lenient form of dates and times

The grammar of the lenient form, said without its reader: the parts in their order, each number
after any blanks and with as many digits as it can have in front of what follows. The
readers take exactly these texts, and each as the date, or the date and time, that it names.
-/

namespace RecordTyping.Calendar

open Text (Digits)

/-- The years that are read. -/
def Readable (year : Int) : Prop := minYear ≤ year ∧ year ≤ maxYear

/-- A number in front of a text: digits after any blanks, at most `limit` of them, and fewer only if
no digit follows. -/
inductive LenientNumber (limit number : Nat) (rest : List Char) : List Char → Prop where
  | spaced {blanks run : List Char} {width : Nat} (blank : ∀ c ∈ blanks, Text.isBlank c = true)
      (digits : Digits width number run) (filled : 0 < width) (within : width ≤ limit)
      (whole : width = limit ∨ rest.takeWhile Char.isDigit = []) :
    LenientNumber limit number rest (blanks ++ run)

/-- A year in front of a hyphen: up to four digits, or a sign and any number of digits, after any
blanks. -/
inductive LenientYear : Int → List Char → Prop where
  | plain {year : Nat} {s : List Char} (digits : LenientNumber 4 year ['-'] s) : LenientYear year s
  | late {blanks run : List Char} {width year : Nat} (blank : ∀ c ∈ blanks, Text.isBlank c = true)
      (digits : Digits width year run) (filled : 0 < width) :
    LenientYear year (blanks ++ '+' :: run)
  | early {blanks run : List Char} {width year : Nat} (blank : ∀ c ∈ blanks, Text.isBlank c = true)
      (digits : Digits width year run) (filled : 0 < width) :
    LenientYear (-year) (blanks ++ '-' :: run)

/-- A date in front of a text: the year, which must be one that is read, the month and the day. -/
inductive Date.Lenient (d : Date) (rest : List Char) : List Char → Prop where
  | parts {year month day : List Char} (readable : Readable d.year)
      (years : LenientYear d.year year) (months : LenientNumber 2 d.month ['-'] month)
      (days : LenientNumber 2 d.day rest day) :
    d.Lenient rest (year ++ '-' :: month ++ '-' :: day)

/-- A date and a time of day, with any blanks or none between them. -/
inductive DateTime.Lenient (t : DateTime) : List Char → Prop where
  | parts {date hour minute second : List Char}
      (dates : t.date.Lenient (hour ++ ':' :: minute ++ ':' :: second) date)
      (hours : LenientNumber 2 t.time.hour [':'] hour)
      (minutes : LenientNumber 2 t.time.minute [':'] minute)
      (seconds : LenientNumber 2 t.time.second [] second) :
    t.Lenient (date ++ (hour ++ ':' :: minute ++ ':' :: second))

variable {limit number low high : Nat} {year : Int} {d : Date} {s rest : List Char}

/-- A year that is read fits in 32 bits. -/
theorem Readable.fits (readable : Readable year) : -0x80000000 ≤ year ∧ year < 0x80000000 := by
  have low : (-262143 : Int) ≤ year := readable.1
  have high : year ≤ (262142 : Int) := readable.2
  omega

/-- The digits of a year that is read are read. -/
theorem Readable.small (readable : Readable year) : year.natAbs ≤ maxNumber := by
  have low : (-262143 : Int) ≤ year := readable.1
  have high : year ≤ (262142 : Int) := readable.2
  have wide : 262143 ≤ maxNumber := by decide
  omega

/-! ## Texts of the form are read -/

/-- The blanks in front of a number do not matter to its reader. -/
theorem readPart_trimStart (limit low high : Nat) (s : List Char) :
    readPart limit low high (Text.trimStart s) = readPart limit low high s := by
  obtain ⟨blanks, split, blank⟩ := Text.blanks_trimStart s
  have twice : Text.trimStart (Text.trimStart s) = Text.trimStart s := by
    conv_rhs => rw [split, Text.trimStart_blanks blank]
  rw [readPart, readPart, twice]

/-- What follows a number matters to it only by whether it goes on with a digit. -/
theorem LenientNumber.ended (form : LenientNumber limit number rest s) {other : List Char}
    (ends : other.takeWhile Char.isDigit = []) : LenientNumber limit number other s := by
  cases form with
  | spaced blank digits filled within _ => exact .spaced blank digits filled within (.inr ends)

/-- A number of a range is read from its form. -/
theorem LenientNumber.read (form : LenientNumber limit number rest s) (small : number ≤ maxNumber)
    (range : low ≤ number ∧ number ≤ high) :
    readPart limit low high (s ++ rest) = .ok (number, rest) := by
  cases form with
  | spaced blank digits filled within whole =>
    have taken := readPart_digits digits filled within small range rest whole
    rw [readPart] at taken ⊢
    rw [List.append_assoc, Text.trimStart_blanks blank, taken]

/-- Digits after a sign are taken whole. -/
theorem readNumber_signed {width : Nat} (digits : Digits width number s) (filled : 0 < width)
    (small : number ≤ maxNumber) (rest : List Char) (ends : rest.takeWhile Char.isDigit = []) :
    readNumber (s ++ rest).length (s ++ rest) = .ok (number, rest) := by
  have within : width ≤ (s ++ rest).length := by
    rw [List.length_append, digits.length]
    exact Nat.le_add_right _ _
  exact readNumber_digits digits filled within small rest (.inr ends)

/-- A year is read from its form. -/
theorem LenientYear.read (form : LenientYear year s) (readable : Readable year)
    (rest : List Char) : readYear (s ++ '-' :: rest) = .ok (year, '-' :: rest) := by
  have fits := readable.fits
  have small := readable.small
  cases form with
  | @plain number s form =>
    obtain ⟨blank, digits, filled, within, -⟩ := form
    rename_i blanks run width
    have start := trimStart_digits digits filled ('-' :: rest)
    have taken := readNumber_digits digits filled within small ('-' :: rest) (.inr rfl)
    have unsigned (sign : Char) (after : List Char) (mark : sign.isDigit = false) :
        run ++ '-' :: rest ≠ sign :: after := by
      obtain ⟨c, tail, rfl, digit⟩ := digits_front digits filled
      intro same
      obtain ⟨rfl, -⟩ := List.cons.inj same
      rw [digit] at mark
      cases mark
    unfold readYear
    rw [List.append_assoc, Text.trimStart_blanks blank, start]
    split
    · next after same => exact absurd same (unsigned '-' after rfl)
    · next after same => exact absurd same (unsigned '+' after rfl)
    · simp only [taken, Except.map, bind, Except.bind, fits, and_self, ↓reduceIte, pure,
        Except.pure]
  | @late blanks run width number blank digits filled =>
    have start := Text.trimStart_cons (c := '+') (run ++ '-' :: rest) rfl
    have taken := readNumber_signed digits filled small ('-' :: rest) rfl
    simp only [readYear, List.append_assoc, List.cons_append, Text.trimStart_blanks blank, start,
      taken, Except.map, bind, Except.bind, fits, and_self, ↓reduceIte, pure, Except.pure]
  | @early blanks run width number blank digits filled =>
    have start := Text.trimStart_cons (c := '-') (run ++ '-' :: rest) rfl
    have taken := readNumber_signed digits filled (by omega) ('-' :: rest) rfl
    simp only [readYear, List.append_assoc, List.cons_append, Text.trimStart_blanks blank, start,
      taken, Except.map, bind, Except.bind, fits, and_self, ↓reduceIte, pure, Except.pure]

/-- The parts of a date are read from its form. -/
theorem Date.Lenient.read (form : d.Lenient rest s) :
    readDateParts (s ++ rest) = .ok (⟨d.year, d.month, d.day⟩, rest) := by
  have most := daysInMonth_le d.year d.month
  have day_range : 1 ≤ d.day ∧ d.day ≤ 31 := by
    have real := d.day_real
    omega
  have month_range := d.month_real
  have wide : 31 ≤ maxNumber := by decide
  cases form with
  | @parts year month day readable years months days =>
    have year_read := years.read readable (month ++ '-' :: (day ++ rest))
    have months' : LenientNumber 2 d.month ('-' :: (day ++ rest)) month := months.ended rfl
    have month_read := months'.read (by omega) month_range
    have day_read := days.read (by omega) day_range
    simp only [readDateParts, List.append_assoc, List.cons_append, year_read, month_read, day_read,
      expect, bind, Except.bind, pure, Except.pure, ↓reduceIte]

/-! ## Texts that are read have the form -/

/-- A number that is taken off the front of a text is digits, as many as asked for or all that there
are. -/
theorem readNumber_run (found : readNumber limit s = .ok (number, rest)) :
    ∃ run width, s = run ++ rest ∧ Digits width number run ∧ 0 < width ∧ width ≤ limit ∧
      (width = limit ∨ rest.takeWhile Char.isDigit = []) := by
  obtain ⟨run, leading⟩ : ∃ run, (s.take limit).takeWhile Char.isDigit = run := ⟨_, rfl⟩
  have digits : ∀ c ∈ run, c.isDigit = true :=
    fun c member => List.mem_takeWhile_imp (leading ▸ member)
  obtain ⟨after, split⟩ : run <+: s :=
    leading ▸ (List.takeWhile_prefix _).trans (List.take_prefix limit s)
  simp only [readNumber, leading] at found
  split at found
  · cases found
  · split at found
    · cases found
    · next filled =>
      split at found
      · cases found
      · obtain ⟨rfl, rfl⟩ := Prod.mk.inj (Except.ok.inj found)
        have within : run.length ≤ limit := by
          rw [← leading]
          exact (List.takeWhile_prefix _).length_le.trans (List.length_take_le _ _)
        rw [← split, List.drop_left]
        refine ⟨run, run.length, rfl, ⟨digits, rfl, rfl⟩, ?_, within, ?_⟩
        · exact List.length_pos_iff.2 fun empty => filled (by rw [empty]; rfl)
        · -- Below the limit the run ends where the digits do.
          rw [Classical.or_iff_not_imp_left]
          intro short
          obtain ⟨more, room⟩ : ∃ more, limit - run.length = more + 1 :=
            ⟨limit - run.length - 1, by omega⟩
          rw [← split, List.take_append, List.take_of_length_le within, room,
            List.takeWhile_append_of_pos digits, List.append_right_eq_self] at leading
          cases after with
          | nil => rfl
          | cons c after =>
            rw [List.take_succ_cons] at leading
            rw [List.takeWhile_eq_nil_iff] at leading ⊢
            exact fun _ => leading (Nat.succ_pos _)

/-- A number that is read has the form, and is of the range. -/
theorem readPart_form (found : readPart limit low high s = .ok (number, rest)) :
    ∃ front, s = front ++ rest ∧ LenientNumber limit number rest front ∧
      low ≤ number ∧ number ≤ high := by
  obtain ⟨blanks, split, blank⟩ := Text.blanks_trimStart s
  obtain ⟨⟨value, after⟩, taken, found⟩ := Traversal.bind_eq_ok.1 found
  obtain ⟨run, width, whole, digits, filled, within, ends⟩ := readNumber_run taken
  dsimp only at found
  split at found
  · next range =>
    obtain ⟨rfl, rfl⟩ := Prod.mk.inj (Except.ok.inj found)
    refine ⟨blanks ++ run, ?_, .spaced blank digits filled within ends, range⟩
    rw [List.append_assoc, ← whole, ← split]
  · cases found

/-- A year that is read is that of its digits with their sign. -/
theorem digits_of_year (sign : Nat → Int) {taken : Except Fault (Nat × List Char)}
    (found : (taken.map (fun front => (sign front.1, front.2)) >>= fun front =>
      if -0x80000000 ≤ front.1 ∧ front.1 < 0x80000000 then pure (front.1, front.2)
      else Except.error Fault.outOfRange) = .ok (year, rest)) :
    ∃ number, taken = .ok (number, rest) ∧ sign number = year := by
  obtain ⟨_, signed, ranged⟩ := Traversal.bind_eq_ok.1 found
  obtain ⟨⟨number, after⟩, rfl, rfl⟩ := Traversal.map_eq_ok.1 signed
  split at ranged
  · obtain ⟨rfl, rfl⟩ := Prod.mk.inj (Except.ok.inj ranged)
    exact ⟨number, rfl, rfl⟩
  · cases ranged

/-- A year that is read has the form. -/
theorem readYear_form (found : readYear s = .ok (year, rest)) :
    ∃ front, s = front ++ rest ∧ LenientYear year front := by
  obtain ⟨blanks, whole, blank⟩ := Text.blanks_trimStart s
  unfold readYear at found
  dsimp only at found
  split at found
  · next after sign =>
    obtain ⟨number, taken, rfl⟩ := digits_of_year (fun n => -(n : Int)) found
    obtain ⟨run, width, rfl, digits, filled, -⟩ := readNumber_run taken
    refine ⟨blanks ++ '-' :: run, ?_, .early blank digits filled⟩
    rw [whole, sign, List.append_assoc, List.cons_append]
  · next after sign =>
    obtain ⟨number, taken, rfl⟩ := digits_of_year Int.ofNat found
    obtain ⟨run, width, rfl, digits, filled, -⟩ := readNumber_run taken
    refine ⟨blanks ++ '+' :: run, ?_, .late blank digits filled⟩
    rw [whole, sign, List.append_assoc, List.cons_append]
  · obtain ⟨number, taken, rfl⟩ := digits_of_year Int.ofNat found
    obtain ⟨run, width, same, digits, filled, within, -⟩ := readNumber_run taken
    refine ⟨blanks ++ run, ?_, .plain (.spaced blank digits filled within (.inr rfl))⟩
    rw [List.append_assoc, ← same, ← whole]

/-- A separator that is taken off the front of a text stands there. -/
theorem expect_eq_ok {mark : Char} : expect mark s = .ok rest ↔ s = mark :: rest := by
  cases s with
  | nil => simp [expect]
  | cons c tail =>
    by_cases same : c = mark
    · simp [expect, same]
    · simp [expect, same]

/-- The parts of a date that is read have their forms, with hyphens between them. -/
theorem readDateParts_form {p : DateParts} (found : readDateParts s = .ok (p, rest)) :
    ∃ year month day, s = year ++ '-' :: month ++ '-' :: day ++ rest ∧ LenientYear p.year year ∧
      LenientNumber 2 p.month ['-'] month ∧ LenientNumber 2 p.day rest day := by
  obtain ⟨⟨year, _⟩, years, found⟩ := Traversal.bind_eq_ok.1 found
  obtain ⟨_, mark, found⟩ := Traversal.bind_eq_ok.1 found
  obtain ⟨⟨month, _⟩, months, found⟩ := Traversal.bind_eq_ok.1 found
  obtain ⟨_, mark', found⟩ := Traversal.bind_eq_ok.1 found
  obtain ⟨⟨day, _⟩, days, found⟩ := Traversal.bind_eq_ok.1 found
  obtain ⟨rfl, rfl⟩ := Prod.mk.inj (Except.ok.inj found)
  obtain rfl := expect_eq_ok.1 mark
  obtain rfl := expect_eq_ok.1 mark'
  obtain ⟨front, rfl, yearForm⟩ := readYear_form years
  obtain ⟨middle, rfl, monthForm, -⟩ := readPart_form months
  obtain ⟨back, rfl, dayForm, -⟩ := readPart_form days
  refine ⟨front, middle, back, ?_, yearForm, monthForm.ended rfl, dayForm⟩
  simp only [List.append_assoc, List.cons_append]

/-- The parts of a date are those of one date. -/
theorem Date.ofParts?_eq_some {month day : Nat} :
    Date.ofParts? year month day = some d ↔ d.year = year ∧ d.month = month ∧ d.day = day := by
  unfold Date.ofParts?
  constructor
  · intro found
    split at found
    · cases found
      exact ⟨rfl, rfl, rfl⟩
    · cases found
  · rintro ⟨rfl, rfl, rfl⟩
    exact dif_pos ⟨d.month_real, d.day_real⟩

/-- The parts of a date name a date of the years that are read, and no other. -/
theorem resolve_eq_ok {p : DateParts} :
    p.resolve = .ok d ↔ Readable d.year ∧ p = ⟨d.year, d.month, d.day⟩ := by
  obtain ⟨year, month, day⟩ := p
  unfold DateParts.resolve
  constructor
  · intro resolved
    split at resolved
    · next readable =>
      split at resolved
      · next date real =>
        obtain rfl := Except.ok.inj resolved
        obtain ⟨rfl, rfl, rfl⟩ := Date.ofParts?_eq_some.1 real
        exact ⟨readable, rfl⟩
      · cases resolved
    · cases resolved
  · rintro ⟨readable, same⟩
    cases same
    have real : Date.ofParts? d.year d.month d.day = some d :=
      Date.ofParts?_eq_some.2 ⟨rfl, rfl, rfl⟩
    have range : minYear ≤ d.year ∧ d.year ≤ maxYear := readable
    simp only [range, and_self, ↓reduceIte, real]

/-- A text is at its end exactly if nothing is left. -/
theorem expectEnd_eq_ok {done : Unit} : expectEnd s = .ok done ↔ s = [] := by
  cases s with
  | nil => simp [expectEnd]
  | cons => simp [expectEnd]

/-! ## The readers take exactly the texts of the form -/

/-- Exactly the texts of the form of a date are read as the date. -/
theorem readDate_eq_ok : readDate s = .ok d ↔ d.Lenient [] s := by
  constructor
  · intro found
    obtain ⟨⟨parts, _⟩, taken, found⟩ := Traversal.bind_eq_ok.1 found
    obtain ⟨_, ends, resolved⟩ := Traversal.bind_eq_ok.1 found
    obtain rfl := expectEnd_eq_ok.1 ends
    obtain ⟨readable, rfl⟩ := resolve_eq_ok.1 resolved
    obtain ⟨year, month, day, rfl, years, months, days⟩ := readDateParts_form taken
    rw [List.append_nil]
    exact .parts readable years months days
  · intro form
    have parts := form.read
    have resolved : DateParts.resolve ⟨d.year, d.month, d.day⟩ = .ok d := by
      cases form with
      | parts readable => exact resolve_eq_ok.2 ⟨readable, rfl⟩
    rw [List.append_nil] at parts
    simp only [readDate, parts, expectEnd, bind, Except.bind, resolved]

/-- The parts of a time of day are those of one time. -/
theorem Time.ofParts?_eq_some {hour minute second : Nat} {t : Time} :
    Time.ofParts? hour minute second = some t ↔
      t.hour = hour ∧ t.minute = minute ∧ t.second = second := by
  unfold Time.ofParts?
  constructor
  · intro found
    split at found
    · cases found
      exact ⟨rfl, rfl, rfl⟩
    · cases found
  · rintro ⟨rfl, rfl, rfl⟩
    exact dif_pos ⟨t.hour_lt, t.minute_lt, t.second_le⟩

/-- Exactly the texts of the form of a date and a time are read as that date and time. -/
theorem readLocal_eq_ok {t : DateTime} : readLocal s = .ok t ↔ t.Lenient s := by
  constructor
  · intro found
    unfold readLocal at found
    obtain ⟨⟨parts, _⟩, dates, found⟩ := Traversal.bind_eq_ok.1 found
    obtain ⟨⟨hour, _⟩, hours, found⟩ := Traversal.bind_eq_ok.1 found
    obtain ⟨_, mark, found⟩ := Traversal.bind_eq_ok.1 found
    obtain ⟨⟨minute, _⟩, minutes, found⟩ := Traversal.bind_eq_ok.1 found
    obtain ⟨_, mark', found⟩ := Traversal.bind_eq_ok.1 found
    obtain ⟨⟨second, _⟩, seconds, found⟩ := Traversal.bind_eq_ok.1 found
    obtain ⟨_, ends, found⟩ := Traversal.bind_eq_ok.1 found
    obtain ⟨date, resolved, found⟩ := Traversal.bind_eq_ok.1 found
    split at found
    · next time real =>
      obtain rfl := Except.ok.inj found
      obtain ⟨rfl, rfl, rfl⟩ := Time.ofParts?_eq_some.1 real
      obtain ⟨readable, rfl⟩ := resolve_eq_ok.1 resolved
      rw [readPart_trimStart] at hours
      obtain rfl := expect_eq_ok.1 mark
      obtain rfl := expect_eq_ok.1 mark'
      obtain rfl := expectEnd_eq_ok.1 ends
      obtain ⟨hour, rfl, hourForm, -⟩ := readPart_form hours
      obtain ⟨minute, rfl, minuteForm, -⟩ := readPart_form minutes
      obtain ⟨second, rfl, secondForm, -⟩ := readPart_form seconds
      obtain ⟨year, month, day, rfl, years, months, days⟩ := readDateParts_form dates
      have behind : hour ++ ':' :: (minute ++ ':' :: (second ++ [])) =
          hour ++ ':' :: minute ++ ':' :: second := by simp
      rw [behind] at days ⊢
      exact .parts (.parts readable years months days) (hourForm.ended rfl) (minuteForm.ended rfl)
        secondForm
    · cases found
  · intro form
    have wide : 60 ≤ maxNumber := by decide
    have hour_lt := t.time.hour_lt
    have minute_lt := t.time.minute_lt
    have second_le := t.time.second_le
    have real : Time.ofParts? t.time.hour t.time.minute t.time.second = some t.time :=
      Time.ofParts?_eq_some.2 ⟨rfl, rfl, rfl⟩
    cases form with
    | @parts date hour minute second dates hours minutes seconds =>
      have resolved : DateParts.resolve ⟨t.date.year, t.date.month, t.date.day⟩ = .ok t.date := by
        cases dates with
        | parts readable => exact resolve_eq_ok.2 ⟨readable, rfl⟩
      have hours' : LenientNumber 2 t.time.hour (':' :: (minute ++ ':' :: second)) hour :=
        hours.ended rfl
      have minutes' : LenientNumber 2 t.time.minute (':' :: second) minute := minutes.ended rfl
      have date_read := dates.read
      have hour_read := hours'.read (by omega) ⟨Nat.zero_le _, show _ ≤ 23 by omega⟩
      have minute_read := minutes'.read (by omega) ⟨Nat.zero_le _, show _ ≤ 59 by omega⟩
      have second_read := seconds.read (by omega) ⟨Nat.zero_le _, second_le⟩
      rw [List.append_assoc, List.cons_append] at date_read
      rw [List.append_nil] at second_read
      simp only [readLocal, List.append_assoc, List.cons_append, date_read, readPart_trimStart,
        hour_read, minute_read, second_read, expect, expectEnd, bind, Except.bind, pure,
        Except.pure, ↓reduceIte, resolved, real]

end RecordTyping.Calendar
