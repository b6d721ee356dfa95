import RecordTyping.Calendar.DateTime

/-!
# Counting days and minutes

The days of the calendar are counted on one line: the first day of year one has the number one, and
the number of the day after is one more. Points in universal time are counted by minutes on the
same line, and told apart within a minute by their second, which may be a leap second. The
numbers name days and minutes uniquely and are in the order of the calendar, and an offset moves
the minute of a point in time by just that offset, across the ends of days, months and years.
-/

namespace RecordTyping.Calendar

/-- The number of days from the first day of year one to that of a year, negative for earlier years.
Every fourth year has a leap day, but of the years that end a century only every fourth. -/
def daysBeforeYear (year : Int) : Int :=
  365 * (year - 1) + (year - 1) / 4 - (year - 1) / 100 + (year - 1) / 400

/-- The number of days of a year before the first day of a month. -/
def daysBeforeMonth (year : Int) : Nat → Nat
  | 0 => 0
  | 1 => 0
  | month + 2 => daysBeforeMonth year (month + 1) + daysInMonth year (month + 1)

/-- The number of a day, counted from the first day of year one, which is day one. -/
def Date.number (d : Date) : Int :=
  daysBeforeYear d.year + daysBeforeMonth d.year d.month + d.day

/-- The number of the minute of a point in universal time, on the line of the days. -/
def DateTime.minuteNumber (t : DateTime) : Int := t.date.number * 1440 + t.time.minutes

/-- Natural numbers compare as they do when they are counted on from one integer. -/
theorem compare_onward (base : Int) (n m : Nat) : compare (base + n) (base + m) = compare n m := by
  rcases Nat.lt_trichotomy n m with less | rfl | more
  · rw [Nat.compare_eq_lt.2 less, Int.compare_eq_lt.2 (by omega)]
  · rw [Nat.compare_eq_eq.2 rfl, Int.compare_eq_eq.2 rfl]
  · rw [Nat.compare_eq_gt.2 more, Int.compare_eq_gt.2 (by omega)]

/-- Natural numbers compare as they do when they are taken as integers. -/
theorem compare_natCast (n m : Nat) : compare (n : Int) (m : Int) = compare n m := by
  have onward := compare_onward 0 n m
  rwa [Int.zero_add, Int.zero_add] at onward

section Places

variable {size low low' : Nat}

/-- Integers whose lower places hold less than one of the higher places compare by the higher
places, and by the lower ones if those are the same. -/
theorem compare_places (within : low < size) (within' : low' < size) (high high' : Int) :
    compare (high * size + low) (high' * size + low') =
      (compare high high').then (compare low low') := by
  rcases Int.lt_trichotomy high high' with less | rfl | more
  · have step : (high + 1) * (size : Int) ≤ high' * size :=
      Int.mul_le_mul_of_nonneg_right less (Int.natCast_nonneg size)
    rw [Int.add_mul, Int.one_mul] at step
    rw [Int.compare_eq_lt.2 less, Int.compare_eq_lt.2 (by omega)]
    rfl
  · rw [compare_onward, Int.compare_eq_eq.2 rfl]
    rfl
  · have step : (high' + 1) * (size : Int) ≤ high * size :=
      Int.mul_le_mul_of_nonneg_right more (Int.natCast_nonneg size)
    rw [Int.add_mul, Int.one_mul] at step
    rw [Int.compare_eq_gt.2 more, Int.compare_eq_gt.2 (by omega)]
    rfl

/-- Natural numbers compare place by place as well. -/
theorem compare_natPlaces (within : low < size) (within' : low' < size) (high high' : Nat) :
    compare (high * size + low) (high' * size + low') =
      (compare high high').then (compare low low') := by
  rw [← compare_natCast, ← compare_natCast high, ← compare_places within within']
  simp only [Int.natCast_add, Int.natCast_mul]

end Places

variable {year other : Int}

/-- The months of a year fill it up to the first day of the next year. -/
theorem daysBeforeYear_succ (year : Int) :
    daysBeforeYear (year + 1) = daysBeforeYear year + daysBeforeMonth year 13 := by
  have months : daysBeforeMonth year 13 = if isLeap year then 366 else 365 := by
    cases leap : isLeap year <;> simp [daysBeforeMonth, daysInMonth, leap]
  rw [months]
  unfold daysBeforeYear
  split
  · next leap =>
    simp only [isLeap, Bool.and_eq_true, Bool.or_eq_true, decide_eq_true_eq] at leap
    omega
  · next common =>
    simp only [isLeap, Bool.and_eq_true, Bool.or_eq_true, decide_eq_true_eq] at common
    omega

/-- A month ends where the next one begins. -/
theorem daysBeforeMonth_succ (year : Int) {month : Nat} (first : 1 ≤ month) :
    daysBeforeMonth year (month + 1) = daysBeforeMonth year month + daysInMonth year month := by
  obtain ⟨before, rfl⟩ := Nat.exists_eq_add_of_le' first
  rfl

/-- A year begins no earlier than the years before it end. -/
theorem daysBeforeYear_mono (earlier : year < other) :
    daysBeforeYear (year + 1) ≤ daysBeforeYear other := by
  unfold daysBeforeYear
  omega

/-- A month begins no earlier than the months before it. -/
theorem daysBeforeMonth_mono {month later : Nat} (order : month ≤ later) :
    daysBeforeMonth year month ≤ daysBeforeMonth year later := by
  induction order with
  | refl => exact Nat.le_refl _
  | @step later order ih =>
    cases later with
    | zero => exact ih
    | succ later => exact Nat.le_trans ih (Nat.le_add_right _ _)

namespace Date

variable {d e : Date}

/-- A day lies within its month. -/
theorem number_month (d : Date) :
    daysBeforeYear d.year + daysBeforeMonth d.year d.month < d.number ∧
      d.number ≤ daysBeforeYear d.year + daysBeforeMonth d.year (d.month + 1) := by
  have day := d.day_real
  rw [daysBeforeMonth_succ d.year d.month_real.1]
  unfold number
  omega

/-- A day lies within its year. -/
theorem number_year (d : Date) :
    daysBeforeYear d.year < d.number ∧ d.number ≤ daysBeforeYear (d.year + 1) := by
  have month := d.number_month
  have inside : daysBeforeMonth d.year (d.month + 1) ≤ daysBeforeMonth d.year 13 := by
    have last := d.month_real.2
    exact daysBeforeMonth_mono (by omega)
  rw [daysBeforeYear_succ]
  omega

/-- The day after has the next number. -/
theorem number_next (d : Date) : d.next.number = d.number + 1 := by
  have last := d.day_real.2
  unfold next
  split
  · simp only [number]
    omega
  · next day =>
    -- The day is the last one of its month.
    have whole : d.number = daysBeforeYear d.year + daysBeforeMonth d.year (d.month + 1) := by
      rw [number, daysBeforeMonth_succ d.year d.month_real.1]
      omega
    split
    · simp only [number] at whole ⊢
      omega
    · next month =>
      have december : d.month + 1 = 13 := by
        have real := d.month_real.2
        omega
      rw [whole, december, ← daysBeforeYear_succ]
      simp [number, firstOf, daysBeforeMonth]

/-- The day before has the number before. -/
theorem number_previous (d : Date) : d.previous.number = d.number - 1 := by
  have first := d.day_real.1
  unfold previous
  split
  · simp only [number]
    omega
  · next day =>
    -- The day is the first one of its month.
    have whole : d.number = daysBeforeYear d.year + daysBeforeMonth d.year d.month + 1 := by
      rw [number]
      omega
    split
    · next month =>
      have before := daysBeforeMonth_succ d.year month
      have same : d.month - 1 + 1 = d.month := by omega
      rw [same] at before
      simp only [number] at whole ⊢
      omega
    · next month =>
      have january : d.month = 1 := by
        have real := d.month_real.1
        omega
      have december : daysBeforeMonth (d.year - 1) 13 = daysBeforeMonth (d.year - 1) 12 + 31 := rfl
      have year := daysBeforeYear_succ (d.year - 1)
      rw [Int.sub_add_cancel, december] at year
      rw [whole, january, year]
      simp only [number, lastOf, daysBeforeMonth]
      omega

/-- The days of a year come before those of the later years. -/
theorem number_lt_of_year (earlier : d.year < e.year) : d.number < e.number := by
  have before := d.number_year
  have after := e.number_year
  have between := daysBeforeYear_mono earlier
  omega

/-- The days of a month come before those of the later months of the year. -/
theorem number_lt_of_month (same : d.year = e.year) (earlier : d.month < e.month) :
    d.number < e.number := by
  have before := d.number_month
  have after := e.number_month
  have between : daysBeforeMonth e.year (d.month + 1) ≤ daysBeforeMonth e.year e.month :=
    daysBeforeMonth_mono earlier
  rw [same] at before
  omega

/-- The days are numbered in the order of years, of months within a year and of days within a
month. -/
theorem compare_number (d e : Date) : compare d.number e.number =
    (compare d.year e.year).then ((compare d.month e.month).then (compare d.day e.day)) := by
  rcases Int.lt_trichotomy d.year e.year with earlier | same | later
  · rw [Int.compare_eq_lt.2 earlier, Int.compare_eq_lt.2 (number_lt_of_year earlier)]
    rfl
  · rw [Int.compare_eq_eq.2 same]
    rcases Nat.lt_trichotomy d.month e.month with earlier | same' | later
    · rw [Nat.compare_eq_lt.2 earlier, Int.compare_eq_lt.2 (number_lt_of_month same earlier)]
      rfl
    · rw [Nat.compare_eq_eq.2 same', number, number, same, same', compare_onward]
      rfl
    · rw [Nat.compare_eq_gt.2 later, Int.compare_eq_gt.2 (number_lt_of_month same.symm later)]
      rfl
  · rw [Int.compare_eq_gt.2 later, Int.compare_eq_gt.2 (number_lt_of_year later)]
    rfl

/-- A number names one day. -/
theorem eq_of_number (same : d.number = e.number) : d = e := by
  have order := compare_number d e
  rw [Int.compare_eq_eq.2 same, eq_comm, Ordering.then_eq_eq, Ordering.then_eq_eq,
    Int.compare_eq_eq, Nat.compare_eq_eq, Nat.compare_eq_eq] at order
  obtain ⟨year, month, day⟩ := order
  cases d
  cases e
  cases year
  cases month
  cases day
  rfl

end Date

/-- The minutes of a time of day are less than those of a day. -/
theorem Time.minutes_lt (t : Time) : t.minutes < 1440 := by
  have hour := t.hour_lt
  have minute := t.minute_lt
  unfold minutes
  omega

/-- The time of a minute of the day is at that minute. -/
theorem Time.minutes_ofMinutes {minutes second : Nat} (real : second ≤ 60)
    (inside : minutes < 1440) : (Time.ofMinutes minutes second real).minutes = minutes := by
  simp only [Time.minutes, Time.ofMinutes]
  omega

/-- A time of day is named by its minute and its second. -/
theorem Time.eq_of_minutes {t u : Time} (minutes : t.minutes = u.minutes)
    (second : t.second = u.second) : t = u := by
  have here := t.minute_lt
  have there := u.minute_lt
  unfold Time.minutes at minutes
  have hour : t.hour = u.hour := by omega
  have minute : t.minute = u.minute := by omega
  cases t
  cases u
  cases hour
  cases minute
  cases second
  rfl

namespace DateTime

variable {t u : DateTime}

/-- A minute of the line lies in one day, at one time of the day. -/
theorem minuteNumber_parts (same : t.minuteNumber = u.minuteNumber) :
    t.date = u.date ∧ t.time.minutes = u.time.minutes := by
  have here := t.time.minutes_lt
  have there := u.time.minutes_lt
  unfold minuteNumber at same
  exact ⟨Date.eq_of_number (by omega), by omega⟩

/-- The number of its minute and its second name a point in universal time. -/
theorem eq_of_minuteNumber (minute : t.minuteNumber = u.minuteNumber)
    (second : t.time.second = u.time.second) : t = u := by
  obtain ⟨date, minutes⟩ := minuteNumber_parts minute
  have time := Time.eq_of_minutes minutes second
  cases t
  cases u
  cases date
  cases time
  rfl

/-- An offset moves a point in time by as many minutes, into the day before or after if it has to,
and leaves its second as it is. -/
theorem universal_moved (t : DateTime) {offset : Int} (within : offset.natAbs < 1440) :
    (t.universal offset).minuteNumber = t.minuteNumber - offset ∧
      (t.universal offset).time.second = t.time.second := by
  have inside := t.time.minutes_lt
  unfold universal dayMinutes
  dsimp only
  split
  · refine ⟨?_, rfl⟩
    simp only [minuteNumber, Date.number_previous]
    rw [Time.minutes_ofMinutes _ (by omega)]
    omega
  · split
    · refine ⟨?_, rfl⟩
      simp only [minuteNumber, Date.number_next]
      rw [Time.minutes_ofMinutes _ (by omega)]
      omega
    · refine ⟨?_, rfl⟩
      simp only [minuteNumber]
      rw [Time.minutes_ofMinutes _ (by omega)]
      omega

/-- Points in universal time are numbered in the order of their days, of their hours within a day
and of their minutes within an hour. -/
theorem compare_minuteNumber (t u : DateTime) : compare t.minuteNumber u.minuteNumber =
    (compare t.date.number u.date.number).then ((compare t.time.hour u.time.hour).then
      (compare t.time.minute u.time.minute)) := by
  have minutes : compare t.time.minutes u.time.minutes =
      (compare t.time.hour u.time.hour).then (compare t.time.minute u.time.minute) :=
    compare_natPlaces t.time.minute_lt u.time.minute_lt t.time.hour u.time.hour
  rw [← minutes]
  exact compare_places t.time.minutes_lt u.time.minutes_lt t.date.number u.date.number

end DateTime

end RecordTyping.Calendar
