import BoundQuery.Proofs.CalendarText

/-!
# Days since the epoch

Every integer is the number of one date, counted from 1970-01-01: the dates of the calendar without
its bounds on years and the integers match, and dates compare as their numbers do. The number of a
date is said with the lengths of years and months; that `Date.ofEpochDays` finds the date of a
number is arithmetic of the cycle of 400 years, in which years are counted from March on.

## Main definitions

* `daysOfYears`, the days of the first years of the calendar
* `Date.OnCalendar`, the dates of all years, and `Date.next`, the date of the day after
* `Date.epochDays`, the number of a date
* `Date.Earlier`, dates compared field by field

## Main results

* `Date.epochDays_next` — numbers count days
* `Date.epochDays_ofEpochDays`, `Date.ofEpochDays_epochDays` — dates and their numbers
* `Date.earlier_iff` — dates compare as their numbers do
-/

namespace BoundQuery

/-! ### The lengths of years -/

/-- The days of the years `1` to `n`; for a negative `n` those of the years `n + 1` to `0`, with a
minus sign. -/
def daysOfYears (n : Int) : Int :=
  365 * n + n / 4 - n / 100 + n / 400

theorem isLeapYear_iff {year : Int} :
    isLeapYear year ↔ year % 4 = 0 ∧ (year % 100 ≠ 0 ∨ year % 400 = 0) := by
  simp [isLeapYear]

/-- The days of a year. -/
def daysInYear (year : Int) : Int :=
  if isLeapYear year then 366 else 365

theorem le_daysInYear (year : Int) : 365 ≤ daysInYear year := by
  rw [daysInYear]
  split
  · decide
  · decide

theorem daysInYear_le (year : Int) : daysInYear year ≤ 366 := by
  rw [daysInYear]
  split
  · decide
  · decide

theorem daysOfYears_eq (year : Int) :
    daysOfYears year = daysOfYears (year - 1) + daysInYear year := by
  rw [daysInYear]
  split
  · next leap =>
    rw [isLeapYear_iff] at leap
    unfold daysOfYears
    omega
  · next common =>
    rw [isLeapYear_iff] at common
    unfold daysOfYears
    omega

theorem daysOfYears_mono {m n : Int} (le : m ≤ n) : daysOfYears m ≤ daysOfYears n := by
  unfold daysOfYears
  omega

namespace Date

/-! ### Dates and their numbers -/

/-- A date of the calendar, in any year. -/
def OnCalendar (d : Date) : Prop :=
  1 ≤ d.day ∧ d.day ≤ daysInMonth d.year d.month

/-- The date of the day after. -/
def next (d : Date) : Date :=
  if d.day < daysInMonth d.year d.month then ⟨d.year, d.month, d.day + 1⟩
  else if d.month < 12 then ⟨d.year, d.month + 1, 1⟩
  else ⟨d.year + 1, 1, 1⟩

/-- The days of a year before a month. -/
def daysBefore (year : Int) : Nat → Nat
  | 0 => 0
  | month + 1 => daysBefore year month + daysInMonth year month

/-- The days from 1970-01-01 to a date. -/
def epochDays (d : Date) : Int :=
  daysOfYears (d.year - 1) - daysOfYears 1969 + daysBefore d.year d.month + d.day - 1

variable {d d' : Date}

theorem valid_iff : d.Valid ↔ inRange d.year ∧ d.OnCalendar := by
  rw [Valid, of?, OnCalendar]
  split
  · next inside =>
    simp only [Bool.and_eq_true, decide_eq_true_eq] at inside
    exact iff_of_true rfl ⟨inside.1.1, inside.1.2, inside.2⟩
  · next outside =>
    simp only [Bool.and_eq_true, decide_eq_true_eq] at outside
    refine iff_of_false (by simp) ?_
    rintro ⟨year, day⟩
    exact outside ⟨⟨year, day.1⟩, day.2⟩

/-- The twelve months are those that have days. -/
theorem OnCalendar.month (on : d.OnCalendar) : 1 ≤ d.month ∧ d.month ≤ 12 := by
  have days : daysInMonth d.year d.month ≠ 0 := by
    have := on.1
    have := on.2
    omega
  refine ⟨?_, (daysInMonth_le d.year d.month).2 days⟩
  rw [Nat.one_le_iff_ne_zero]
  intro zero
  rw [zero] at days
  exact days rfl

theorem daysBefore_succ (year : Int) (month : Nat) :
    daysBefore year (month + 1) = daysBefore year month + daysInMonth year month := rfl

theorem daysBefore_mono {year : Int} {m n : Nat} (le : m ≤ n) :
    daysBefore year m ≤ daysBefore year n := by
  induction le with
  | refl => exact Nat.le_refl _
  | step _ ih =>
    rw [Nat.succ_eq_add_one, daysBefore_succ]
    exact Nat.le_add_right_of_le ih

/-- The twelve months make up the year. -/
theorem daysBefore_thirteen (year : Int) : (daysBefore year 13 : Int) = daysInYear year := by
  simp only [daysBefore, daysInYear, daysInMonth]
  split
  · rfl
  · rfl

theorem epochDays_epoch : epoch.epochDays = 0 := by
  decide

/-- The day after has the next number. -/
theorem epochDays_next (on : d.OnCalendar) : d.next.epochDays = d.epochDays + 1 := by
  obtain ⟨first, last⟩ := on
  rw [next]
  split
  · -- within the month
    simp only [epochDays]
    omega
  · next ends =>
    split
    · -- the first day of the next month
      have month := daysBefore_succ d.year d.month
      simp only [epochDays]
      omega
    · next final =>
      -- the first day of the next year
      obtain december : d.month = 12 := by
        have months := OnCalendar.month ⟨first, last⟩
        omega
      have month : daysBefore d.year 13 = daysBefore d.year 12 + daysInMonth d.year 12 :=
        daysBefore_succ d.year 12
      have year := daysBefore_thirteen d.year
      have years := daysOfYears_eq d.year
      have none : daysBefore (d.year + 1) 1 = 0 := rfl
      rw [december] at ends last
      simp only [epochDays, none, december, Int.add_sub_cancel]
      omega

/-! ### The order of dates -/

/-- One number before another; what decides a tie follows. -/
def Precedes (m n : Int) (tie : Prop) : Prop :=
  m < n ∨ m = n ∧ tie

/-- Dates compared by year, month and day; what decides a tie follows. -/
def Earlier (d d' : Date) (tie : Prop) : Prop :=
  Precedes d.year d'.year (Precedes d.month d'.month (Precedes d.day d'.day tie))

/-- The number of a date is among those of its year. -/
theorem OnCalendar.epochDays_mem_year (on : d.OnCalendar) :
    daysOfYears (d.year - 1) ≤ d.epochDays + daysOfYears 1969 ∧
      d.epochDays + daysOfYears 1969 < daysOfYears d.year := by
  obtain ⟨first, last⟩ := on
  have months := OnCalendar.month ⟨first, last⟩
  have month := daysBefore_succ d.year d.month
  have rest : daysBefore d.year (d.month + 1) ≤ daysBefore d.year 13 := daysBefore_mono (by omega)
  have year := daysBefore_thirteen d.year
  have years := daysOfYears_eq d.year
  rw [epochDays]
  omega

theorem epochDays_lt_of_earlier (on : d.OnCalendar) (on' : d'.OnCalendar)
    (earlier : d.Earlier d' False) : d.epochDays < d'.epochDays := by
  rcases earlier with year | ⟨sameYear, month | ⟨sameMonth, day | ⟨_, ⟨⟩⟩⟩⟩
  · have years : daysOfYears d.year ≤ daysOfYears (d'.year - 1) := daysOfYears_mono (by omega)
    have := on.epochDays_mem_year
    have := on'.epochDays_mem_year
    omega
  · -- the months up to that of the first date end before the second date
    have through := daysBefore_succ d.year d.month
    have months : daysBefore d.year (d.month + 1) ≤ daysBefore d.year d'.month :=
      daysBefore_mono (by omega)
    have := on.2
    have := on'.1
    rw [epochDays, epochDays, ← sameYear]
    omega
  · have sameMonth : d.month = d'.month := by omega
    rw [epochDays, epochDays, ← sameYear, ← sameMonth]
    omega

theorem earlier_iff_or {tie : Prop} : d.Earlier d' tie ↔ d.Earlier d' False ∨ d = d' ∧ tie := by
  obtain ⟨year, month, day⟩ := d
  obtain ⟨year', month', day'⟩ := d'
  simp only [Earlier, Precedes, Date.mk.injEq]
  by_cases decided : tie
  · simp only [decided, and_true, and_false, or_false]
    omega
  · simp only [decided, and_false, or_false]

theorem earlier_trichotomy (d d' : Date) : d.Earlier d' False ∨ d = d' ∨ d'.Earlier d False := by
  obtain ⟨year, month, day⟩ := d
  obtain ⟨year', month', day'⟩ := d'
  simp only [Earlier, Precedes, Date.mk.injEq]
  omega

/-- Two dates of the calendar have different numbers. -/
theorem eq_of_epochDays_eq (on : d.OnCalendar) (on' : d'.OnCalendar)
    (same : d.epochDays = d'.epochDays) : d = d' := by
  rcases earlier_trichotomy d d' with before | equal | after
  · exact absurd same (Int.ne_of_lt (epochDays_lt_of_earlier on on' before))
  · exact equal
  · exact absurd same.symm (Int.ne_of_lt (epochDays_lt_of_earlier on' on after))

/-- Dates of the calendar compare as their numbers do. -/
theorem earlier_iff {tie : Prop} (on : d.OnCalendar) (on' : d'.OnCalendar) :
    d.Earlier d' tie ↔ Precedes d.epochDays d'.epochDays tie := by
  rw [earlier_iff_or, Precedes]
  constructor
  · rintro (before | ⟨rfl, decided⟩)
    · exact .inl (epochDays_lt_of_earlier on on' before)
    · exact .inr ⟨rfl, decided⟩
  · rintro (less | ⟨same, decided⟩)
    · rcases earlier_trichotomy d d' with before | rfl | after
      · exact .inl before
      · exact absurd less (Int.lt_irrefl _)
      · exact absurd (epochDays_lt_of_earlier on' on after) (Int.lt_asymm less)
    · exact .inr ⟨eq_of_epochDays_eq on on' same, decided⟩

/-! ### The cycle of 400 years -/

/-- A day of the cycle of 400 years, with years counted from March on: its century, its four years
in the century, its year of these, and its day of the year. Only the last of four years has a leap
day, and of the last four years of a century only those that end the cycle. -/
structure DayOfCycle where
  century : Int
  four : Int
  year : Int
  day : Int
  inCycle : 0 ≤ century ∧ century ≤ 3
  inCentury : 0 ≤ four ∧ four ≤ 24
  inFour : 0 ≤ year ∧ year ≤ 3
  inYear : 0 ≤ day ∧ day ≤ 365
  leap : day = 365 → year = 3 ∧ (four = 24 → century = 3)

namespace DayOfCycle

/-- The number of the day in its cycle. -/
def number (p : DayOfCycle) : Int :=
  36524 * p.century + 1461 * p.four + 365 * p.year + p.day

/-- The number of the year in its cycle. -/
def yearNumber (p : DayOfCycle) : Int :=
  100 * p.century + 4 * p.four + p.year

theorem exists_of_number {n : Int} (start : 0 ≤ n) (stop : n < 146097) :
    ∃ p : DayOfCycle, p.number = n := by
  -- the last day of the cycle does not open a fifth century
  obtain ⟨century, ofCentury, inCycle, bounds, whole⟩ : ∃ century ofCentury : Int,
      (0 ≤ century ∧ century ≤ 3) ∧
      (0 ≤ ofCentury ∧ ofCentury ≤ 36524 ∧ (ofCentury = 36524 → century = 3)) ∧
      n = 36524 * century + ofCentury := by
    by_cases last : n = 146096
    · exact ⟨3, 36524, by omega, by omega, by omega⟩
    · exact ⟨n / 36524, n % 36524, by omega, by omega, by omega⟩
  -- nor does the last day of four years open a fifth year
  obtain ⟨year, day, inFour, inYear, parts⟩ : ∃ year day : Int, (0 ≤ year ∧ year ≤ 3) ∧
      (0 ≤ day ∧ day ≤ 365 ∧ (day = 365 → year = 3)) ∧ ofCentury % 1461 = 365 * year + day := by
    by_cases last : ofCentury % 1461 = 1460
    · exact ⟨3, 365, by omega, by omega, by omega⟩
    · exact ⟨ofCentury % 1461 / 365, ofCentury % 1461 % 365, by omega, by omega, by omega⟩
  refine ⟨⟨century, ofCentury / 1461, year, day, inCycle, by omega, inFour, ⟨inYear.1, inYear.2.1⟩,
    by omega⟩, ?_⟩
  simp only [number]
  omega

variable (p : DayOfCycle)

theorem yearNumber_bounds : 0 ≤ p.yearNumber ∧ p.yearNumber < 400 := by
  obtain ⟨century, four, year, day, _, _, _, -, -⟩ := p
  simp only [yearNumber]
  omega

theorem daysOfYears_yearNumber : daysOfYears p.yearNumber + p.day = p.number := by
  obtain ⟨century, four, year, day, inCycle, inCentury, inFour, -, -⟩ := p
  have fours : (100 * century + 4 * four + year) / 4 = 25 * century + four := by omega
  have centuries : (100 * century + 4 * four + year) / 100 = century := by omega
  have cycles : (100 * century + 4 * four + year) / 400 = 0 := by omega
  simp only [daysOfYears, yearNumber, number, fours, centuries, cycles]
  omega

/-- The year after one with a leap day at its end is a leap year. -/
theorem isLeapYear_of_leapDay (leapDay : p.day = 365) : isLeapYear (p.yearNumber + 1) := by
  obtain ⟨last, ends⟩ := p.leap leapDay
  have inCentury := p.inCentury
  rw [isLeapYear_iff, yearNumber, last]
  omega

theorem number_lt : p.number < daysOfYears (p.yearNumber + 1) := by
  have start := p.daysOfYears_yearNumber
  have length := daysOfYears_eq (p.yearNumber + 1)
  rw [Int.add_sub_cancel] at length
  have days : p.day < daysInYear (p.yearNumber + 1) := by
    have inYear := p.inYear
    by_cases leapDay : p.day = 365
    · rw [daysInYear, if_pos (p.isLeapYear_of_leapDay leapDay), leapDay]
      decide
    · have common := le_daysInYear (p.yearNumber + 1)
      omega
  omega

/-- Without leap days, of which there is one in 1460 days for every fourth year and none for a
century unless it ends the cycle, a year is 365 days. -/
theorem yearNumber_eq :
    (p.number - p.number / 1460 + p.number / 36524 - p.number / 146096) / 365 = p.yearNumber := by
  obtain ⟨century, four, year, day, inCycle, inCentury, inFour, inYear, leap⟩ := p
  simp only [number, yearNumber]
  generalize whole : 36524 * century + 1461 * four + 365 * year + day = n
  have centuries : n / 36524 - n / 146096 = century := by
    by_cases last : n = 146096
    · omega
    · have none : n / 146096 = 0 := by omega
      have within : 1461 * four + 365 * year + day < 36524 := by omega
      omega
  -- the leap day of four years is counted at their end or shortly before it, in their last year
  obtain ⟨early, isEarly⟩ : ∃ early, (24 * century + four + 365 * year + day) / 1460 = early :=
    ⟨_, rfl⟩
  have leapDays : n / 1460 = 25 * century + four + early := by
    have parts : n = 24 * century + four + 365 * year + day + 1460 * (25 * century + four) := by
      omega
    rw [parts, Int.add_mul_ediv_left _ _ (by decide), isEarly, Int.add_comm]
  have inside : 0 ≤ day - early ∧ day - early < 365 := by
    clear whole centuries leapDays
    omega
  have days : n - n / 1460 + n / 36524 - n / 146096 =
      day - early + 365 * (100 * century + 4 * four + year) := by
    clear isEarly inside leap inYear inFour inCentury inCycle
    omega
  rw [days, Int.add_mul_ediv_left _ _ (by decide), Int.ediv_eq_zero_of_lt inside.1 inside.2,
    Int.zero_add]

end DayOfCycle

theorem daysOfYears_add_cycles (year cycle : Int) :
    daysOfYears (year + 400 * cycle) = daysOfYears year + 146097 * cycle := by
  unfold daysOfYears
  omega

/-! ### Years from March on -/

/-- The date of a day of a year that starts with March and is named for it. -/
def ofMarch (year day : Int) : Date :=
  let monthFromMarch := (5 * day + 2) / 153
  let month := if monthFromMarch < 10 then monthFromMarch + 3 else monthFromMarch - 9
  ⟨year + (if month ≤ 2 then 1 else 0), month.toNat,
    (day - (153 * monthFromMarch + 2) / 5 + 1).toNat⟩

/-- A day of the calendar in its year from March on. -/
theorem ofEpochDays_eq (n : Int) : ∃ year day, ofEpochDays n = ofMarch year day ∧ 0 ≤ day ∧
    daysOfYears year + day = n + 719468 ∧ n + 719468 < daysOfYears (year + 1) := by
  obtain ⟨p, isNumber⟩ := DayOfCycle.exists_of_number
    (Int.emod_nonneg (n + 719468) (show (146097 : Int) ≠ 0 by decide))
    (Int.emod_lt_of_pos (n + 719468) (by decide))
  have parts := Int.emod_add_mul_ediv (n + 719468) 146097
  have start := p.daysOfYears_yearNumber
  have stop := p.number_lt
  have found := p.yearNumber_eq
  have bounds := p.yearNumber_bounds
  refine ⟨p.yearNumber + 400 * ((n + 719468) / 146097), p.day, ?_, p.inYear.1, ?_, ?_⟩
  · have first : 365 * p.yearNumber + p.yearNumber / 4 - p.yearNumber / 100 =
        daysOfYears p.yearNumber := by
      unfold daysOfYears
      omega
    have day : p.number - daysOfYears p.yearNumber = p.day := by omega
    simp only [ofEpochDays, ← isNumber, found, first, day, ofMarch]
  · rw [daysOfYears_add_cycles]
    omega
  · rw [Int.add_right_comm, daysOfYears_add_cycles]
    omega

/-- The months from March on: five of them have 153 days, and each starts at the day that a fifth of
that gives, rounded. -/
theorem months_from_march (year : Int) {m : Nat} (december : m < 10) :
    (daysBefore year (m + 3) : Int) = daysInYear year - 306 + (153 * m + 2) / 5 ∧
      (daysInMonth year (m + 3) : Int) = (153 * (m + 1) + 2) / 5 - (153 * m + 2) / 5 := by
  rw [daysInYear]
  obtain rfl | rfl | rfl | rfl | rfl | rfl | rfl | rfl | rfl | rfl : m = 0 ∨ m = 1 ∨ m = 2 ∨
      m = 3 ∨ m = 4 ∨ m = 5 ∨ m = 6 ∨ m = 7 ∨ m = 8 ∨ m = 9 := by omega
  all_goals
    refine ⟨?_, rfl⟩
    simp only [daysBefore, daysInMonth]
    split
    · rfl
    · rfl

/-- February ends the year from March on. -/
theorem daysInMonth_february (year : Int) : (daysInMonth year 2 : Int) = daysInYear year - 337 := by
  rw [daysInMonth, daysInYear]
  split
  · rfl
  · rfl

theorem ofMarch_eq {year day : Int} {m k : Nat} (isMonth : (5 * day + 2) / 153 = m)
    (isDay : day - (153 * m + 2) / 5 = k) (months : m < 12) :
    ofMarch year day = if m < 10 then ⟨year, m + 3, k + 1⟩ else ⟨year + 1, m - 9, k + 1⟩ := by
  simp only [ofMarch, isMonth, isDay]
  by_cases december : m < 10
  · have within : (m : Int) < 10 := by omega
    have sameYear : ¬ (m : Int) + 3 ≤ 2 := by omega
    simp only [december, within, sameYear, if_true, if_false, Date.mk.injEq]
    omega
  · have behind : ¬ (m : Int) < 10 := by omega
    have nextYear : (m : Int) - 9 ≤ 2 := by omega
    simp only [december, behind, nextYear, if_true, if_false, Date.mk.injEq, true_and]
    omega

/-- The date of a day of a year from March on is that of its number. -/
theorem ofMarch_spec (year : Int) {day : Int} (start : 0 ≤ day)
    (stop : day < daysInYear (year + 1)) :
    (ofMarch year day).OnCalendar ∧
      (ofMarch year day).epochDays = daysOfYears year + day - 719468 := by
  have final : day < 366 := Int.lt_of_lt_of_le stop (daysInYear_le (year + 1))
  obtain ⟨m, isMonth⟩ : ∃ m : Nat, (5 * day + 2) / 153 = m :=
    ⟨((5 * day + 2) / 153).toNat, by omega⟩
  obtain ⟨k, isDay⟩ : ∃ k : Nat, day - (153 * m + 2) / 5 = k :=
    ⟨(day - (153 * m + 2) / 5).toNat, by omega⟩
  have next : day < (153 * (m + 1) + 2) / 5 := by omega
  have first : daysOfYears 1969 = 719162 := rfl
  rw [ofMarch_eq isMonth isDay (by omega)]
  by_cases december : m < 10
  · obtain ⟨before, length⟩ := months_from_march year december
    have years := daysOfYears_eq year
    rw [if_pos december]
    simp only [OnCalendar, epochDays]
    omega
  · -- January and February belong to the next year of the calendar
    rw [if_neg december]
    obtain rfl | rfl : m = 10 ∨ m = 11 := by omega
    · have before : daysBefore (year + 1) 1 = 0 := rfl
      have length : daysInMonth (year + 1) 1 = 31 := rfl
      simp only [OnCalendar, epochDays, Int.add_sub_cancel, Nat.reduceSub]
      omega
    · have before : daysBefore (year + 1) 2 = 31 := rfl
      have length := daysInMonth_february (year + 1)
      simp only [OnCalendar, epochDays, Int.add_sub_cancel, Nat.reduceSub]
      omega

/-- The date of a number has this number. -/
theorem epochDays_ofEpochDays (n : Int) :
    (ofEpochDays n).OnCalendar ∧ (ofEpochDays n).epochDays = n := by
  obtain ⟨year, day, date, start, parts, stop⟩ := ofEpochDays_eq n
  have length := daysOfYears_eq (year + 1)
  rw [Int.add_sub_cancel] at length
  obtain ⟨on, number⟩ := ofMarch_spec year start (by omega)
  rw [date]
  exact ⟨on, by omega⟩

theorem ofEpochDays_epochDays (on : d.OnCalendar) : ofEpochDays d.epochDays = d := by
  obtain ⟨found, number⟩ := epochDays_ofEpochDays d.epochDays
  exact eq_of_epochDays_eq found on number

end Date

end BoundQuery
