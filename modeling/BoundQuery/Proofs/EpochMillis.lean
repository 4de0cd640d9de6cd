import BoundQuery.Proofs.EpochDays
import BoundQuery.Statement.Update

/-!
# Milliseconds since the epoch

A temporal column takes an integer for milliseconds since 1970-01-01T00:00:00. The moment that is
stored lies exactly that far from the epoch, before or after it, and the date that is stored is that
of the day in which the moment falls. An integer is refused exactly when its day has a year outside
the calendar.

## Main definitions

* `Moment.sinceEpoch`, the nanoseconds from the epoch to a moment
* `Moment.Earlier`, moments compared field by field
* `Value.NotLater`, dates and moments in order

## Main results

* `Moment.ofEpochMillis?_eq_some_iff` — the moment at a distance from the epoch
* `Moment.ofEpochMillis?_eq_none_iff` — the distances without a moment
* `Moment.earlier_iff` — moments compare as their distances do
* `Assignment.stored_millis` — the values that a temporal column stores for integers
-/

namespace BoundQuery

namespace Date

variable {d : Date}

/-- The numbers of the dates whose years are in the calendar. -/
theorem inRange_iff_epochDays (on : d.OnCalendar) :
    inRange d.year ↔ -96465292 ≤ d.epochDays ∧ d.epochDays ≤ 95026236 := by
  obtain ⟨start, stop⟩ := on.epochDays_mem_year
  have epoch : daysOfYears 1969 = 719162 := rfl
  have first : daysOfYears (-262144) = -95746130 := rfl
  have last : daysOfYears 262142 = 95745399 := rfl
  rw [inRange, minYear, maxYear, Bool.and_eq_true, decide_eq_true_eq, decide_eq_true_eq]
  constructor
  · rintro ⟨notBefore, notAfter⟩
    have years : daysOfYears (-262144) ≤ daysOfYears (d.year - 1) := daysOfYears_mono (by omega)
    have through : daysOfYears d.year ≤ daysOfYears 262142 := daysOfYears_mono notAfter
    omega
  · rintro ⟨notBefore, notAfter⟩
    by_contra outside
    rcases (by omega : d.year ≤ -262144 ∨ 262142 ≤ d.year - 1) with before | after
    · have years := daysOfYears_mono before
      omega
    · have years := daysOfYears_mono after
      omega

end Date

namespace Moment

open Date (Precedes ofEpochDays)

attribute [ext] Moment

/-- The nanoseconds from the epoch to a moment. -/
def sinceEpoch (t : Moment) : Int :=
  (t.date.epochDays * 86400 + t.hour * 3600 + t.minute * 60 + t.second) * 1000000000 + t.nanosecond

/-- Moments compared field by field; what decides a tie follows. -/
def Earlier (t t' : Moment) (tie : Prop) : Prop :=
  t.date.Earlier t'.date (Precedes t.hour t'.hour (Precedes t.minute t'.minute
    (Precedes t.second t'.second (Precedes t.nanosecond t'.nanosecond tie))))

/-- A moment of the calendar outside leap seconds. -/
structure Regular (t : Moment) : Prop where
  valid : t.Valid
  second : t.second < 60

variable {t t' : Moment} {millis : Int}

theorem Regular.onCalendar (regular : t.Regular) : t.date.OnCalendar :=
  (Date.valid_iff.mp regular.valid.date).2

/-- Moments outside leap seconds compare as their distances from the epoch do. -/
theorem earlier_iff {tie : Prop} (regular : t.Regular) (regular' : t'.Regular) :
    t.Earlier t' tie ↔ Precedes t.sinceEpoch t'.sinceEpoch tie := by
  obtain ⟨-, hour, minute, -, nanosecond⟩ := regular.valid
  obtain ⟨-, hour', minute', -, nanosecond'⟩ := regular'.valid
  have second := regular.second
  have second' := regular'.second
  rw [Earlier, Date.earlier_iff regular.onCalendar regular'.onCalendar]
  simp only [Precedes, sinceEpoch]
  by_cases decided : tie
  · simp only [decided, and_true]
    omega
  · simp only [decided, and_false, or_false]
    omega

/-- Two moments outside leap seconds lie at different distances from the epoch. -/
theorem eq_of_sinceEpoch_eq (regular : t.Regular) (regular' : t'.Regular)
    (same : t.sinceEpoch = t'.sinceEpoch) : t = t' := by
  obtain ⟨-, hour, minute, -, nanosecond⟩ := regular.valid
  obtain ⟨-, hour', minute', -, nanosecond'⟩ := regular'.valid
  have second := regular.second
  have second' := regular'.second
  rw [sinceEpoch, sinceEpoch] at same
  have sameDate : t.date = t'.date :=
    Date.eq_of_epochDays_eq regular.onCalendar regular'.onCalendar (by omega)
  rw [sameDate] at same
  ext1
  · exact sameDate
  all_goals omega

/-- The moment of a number of milliseconds lies that far from the epoch. -/
theorem spec_of_ofEpochMillis? (found : ofEpochMillis? millis = some t) :
    t.Regular ∧ t.sinceEpoch = millis * 1000000 := by
  rw [ofEpochMillis?] at found
  split at found
  · next inside =>
    obtain ⟨on, number⟩ := Date.epochDays_ofEpochDays (millis / 1000 / 86400)
    obtain rfl := Option.some.inj found
    refine ⟨⟨⟨Date.valid_iff.mpr ⟨inside, on⟩, ?_, ?_, ?_, ?_⟩, ?_⟩, ?_⟩
    rotate_left 5
    · simp only [sinceEpoch, number]
      omega
    -- the fields of the time of day are remainders
    all_goals
      dsimp only
      omega
  · cases found

/-- The day of a moment is that of its milliseconds, rounded down. -/
theorem epochDays_of_sinceEpoch (regular : t.Regular) (distance : t.sinceEpoch = millis * 1000000) :
    t.date.epochDays = millis / 86400000 := by
  obtain ⟨-, hour, minute, -, nanosecond⟩ := regular.valid
  have second := regular.second
  rw [sinceEpoch] at distance
  omega

theorem ofEpochMillis?_eq_none_iff : ofEpochMillis? millis = none ↔
    ¬ Date.inRange (ofEpochDays (millis / 86400000)).year := by
  have days : millis / 1000 / 86400 = millis / 86400000 := by omega
  rw [ofEpochMillis?, days]
  split
  · next inside => exact iff_of_false (by simp) (not_not_intro inside)
  · next outside => exact iff_of_true rfl outside

/-- The moment of a number of milliseconds is the one that lies that far from the epoch. -/
theorem ofEpochMillis?_eq_some_iff :
    ofEpochMillis? millis = some t ↔ t.Regular ∧ t.sinceEpoch = millis * 1000000 := by
  refine ⟨spec_of_ofEpochMillis?, ?_⟩
  rintro ⟨regular, distance⟩
  have day := epochDays_of_sinceEpoch regular distance
  cases found : ofEpochMillis? millis with
  | none =>
    rw [ofEpochMillis?_eq_none_iff, ← day, Date.ofEpochDays_epochDays regular.onCalendar] at found
    exact absurd (Date.valid_iff.mp regular.valid.date).1 found
  | some t' =>
    obtain ⟨regular', distance'⟩ := spec_of_ofEpochMillis? found
    rw [eq_of_sinceEpoch_eq regular regular' (distance.trans distance'.symm)]

/-- The moments of a day have its date. -/
theorem exists_ofEpochMillis?_date_iff {d : Date} :
    (∃ t, ofEpochMillis? millis = some t ∧ t.date = d) ↔
      d.Valid ∧ d.epochDays = millis / 86400000 := by
  constructor
  · rintro ⟨t, found, rfl⟩
    obtain ⟨regular, distance⟩ := spec_of_ofEpochMillis? found
    exact ⟨regular.valid.date, epochDays_of_sinceEpoch regular distance⟩
  · rintro ⟨valid, day⟩
    obtain ⟨inside, on⟩ := Date.valid_iff.mp valid
    cases found : ofEpochMillis? millis with
    | none =>
      rw [ofEpochMillis?_eq_none_iff, ← day, Date.ofEpochDays_epochDays on] at found
      exact absurd inside found
    | some t =>
      obtain ⟨regular, distance⟩ := spec_of_ofEpochMillis? found
      refine ⟨t, rfl, Date.eq_of_epochDays_eq regular.onCalendar on ?_⟩
      rw [day, epochDays_of_sinceEpoch regular distance]

/-- The date of a day without moments has a year outside the calendar. -/
theorem ofEpochMillis?_eq_none_iff_year : ofEpochMillis? millis = none ↔
    ∀ d : Date, d.OnCalendar → d.epochDays = millis / 86400000 →
      d.year < -262143 ∨ 262142 < d.year := by
  obtain ⟨on, number⟩ := Date.epochDays_ofEpochDays (millis / 86400000)
  rw [ofEpochMillis?_eq_none_iff, Date.inRange, Date.minYear, Date.maxYear, Bool.and_eq_true,
    decide_eq_true_eq, decide_eq_true_eq]
  constructor
  · intro outside d onCalendar day
    rw [← day, Date.ofEpochDays_epochDays onCalendar] at outside
    omega
  · intro outside inside
    have year := outside _ on number
    omega

/-- A moment at a whole number of milliseconds has no smaller parts of a second. -/
theorem wholeMillis (regular : t.Regular) (distance : t.sinceEpoch = millis * 1000000) :
    ∃ ms, ms ≤ 999 ∧ t.nanosecond = ms * 1000000 := by
  have nanosecond := regular.valid.nanosecond
  rw [sinceEpoch] at distance
  exact ⟨t.nanosecond / 1000000, by omega, by omega⟩

/-- More milliseconds give no earlier date and no earlier moment. -/
theorem notLater_of_le {later : Int} (le : millis ≤ later) (found : ofEpochMillis? millis = some t)
    (found' : ofEpochMillis? later = some t') :
    t.date.Earlier t'.date True ∧ t.Earlier t' True := by
  obtain ⟨regular, distance⟩ := spec_of_ofEpochMillis? found
  obtain ⟨regular', distance'⟩ := spec_of_ofEpochMillis? found'
  constructor
  · have day := epochDays_of_sinceEpoch regular distance
    have day' := epochDays_of_sinceEpoch regular' distance'
    rw [Date.earlier_iff regular.onCalendar regular'.onCalendar, Precedes, and_true]
    omega
  · rw [earlier_iff regular regular', Precedes, and_true]
    omega

/-- The first and the last millisecond of the calendar. -/
theorem ofEpochMillis?_eq_none_iff_lt : ofEpochMillis? millis = none ↔
    millis < -8334601228800000 ∨ 8210266876799999 < millis := by
  obtain ⟨on, number⟩ := Date.epochDays_ofEpochDays (millis / 86400000)
  rw [ofEpochMillis?_eq_none_iff, Date.inRange_iff_epochDays on, number]
  omega

end Moment

/-- A date or a moment that is not later than another. -/
inductive Value.NotLater : Value → Value → Prop where
  | date {d d' : Date} (notLater : d.Earlier d' True) : NotLater (.date d) (.date d')
  | moment {t t' : Moment} (notLater : t.Earlier t' True) : NotLater (.moment t) (.moment t')

namespace Assignment

open Moment (ofEpochMillis?)

variable {e : Entity} {name : String} {p : Property} {millis : Int64}

/-- A column that holds JSON stores text. -/
theorem stored_of_json (json : p.json) (v : Value) :
    stored e name p v = .ok (.text v.contentText) := by
  unfold stored
  exact if_pos json

/-- All but the integers of temporal columns is stored as it is. -/
theorem stored_of_plain (plain : p.json = false) {v : Value}
    (other : ∀ i, v = .int i → p.type.isTemporal = false) : stored e name p v = .ok v := by
  unfold stored
  rw [plain, if_neg Bool.false_ne_true]
  cases v with
  | int i => rw [other i rfl]; rfl
  | _ => rfl

theorem stored_int_eq_ok_iff (plain : p.json = false) (temporal : p.type.isTemporal) {v : Value} :
    stored e name p (.int millis) = .ok v ↔
      ∃ t, ofEpochMillis? millis.toInt = some t ∧
        v = if p.type = .date then .date t.date else .moment t := by
  rw [stored, plain, if_neg Bool.false_ne_true]
  simp only [temporal, if_true]
  cases ofEpochMillis? millis.toInt with
  | none => simp
  | some t => simp [eq_comm]

theorem stored_int_eq_error_iff (plain : p.json = false) (temporal : p.type.isTemporal)
    {error : CompileError} : stored e name p (.int millis) = .error error ↔
      error = .syntaxFault (.millisOutOfRange e.name name millis.toInt) ∧
        ofEpochMillis? millis.toInt = none := by
  rw [stored, plain, if_neg Bool.false_ne_true]
  simp only [temporal, if_true]
  cases ofEpochMillis? millis.toInt with
  | none => simp [eq_comm]
  | some t => simp

/-- Take an integer in a temporal column that does not hold JSON. Its seconds and nanoseconds fit
machine words. It is refused exactly when the date of its day, the whole days since the epoch
rounded down, has a year outside the calendar. Otherwise a column of moments stores the moment
outside leap seconds that lies exactly so many milliseconds from the epoch, and a column of dates
stores the date of the day. Greater integers give no earlier values. -/
theorem stored_millis (e : Entity) (name : String) (plain : p.json = false)
    (temporal : p.type.isTemporal) (millis : Int64) :
    (Int64.minValue.toInt ≤ millis.toInt / 1000 ∧ millis.toInt / 1000 ≤ Int64.maxValue.toInt ∧
      0 ≤ millis.toInt % 1000 * 1000000 ∧ millis.toInt % 1000 * 1000000 < UInt32.size) ∧
    (∀ error, stored e name p (.int millis) = .error error ↔
      error = .syntaxFault (.millisOutOfRange e.name name millis.toInt) ∧
        ∀ d : Date, d.OnCalendar → d.epochDays = millis.toInt / 86400000 →
          d.year < -262143 ∨ 262142 < d.year) ∧
    (p.type = .datetime → ∀ v, stored e name p (.int millis) = .ok v ↔
      ∃ t, v = .moment t ∧ t.Valid ∧ t.second < 60 ∧
        (∃ ms, ms ≤ 999 ∧ t.nanosecond = ms * 1000000) ∧
        t.sinceEpoch = millis.toInt * 1000000) ∧
    (p.type = .date → ∀ v, stored e name p (.int millis) = .ok v ↔
      ∃ d, v = .date d ∧ d.Valid ∧ d.epochDays = millis.toInt / 86400000) ∧
    ∀ later v v', millis ≤ later → stored e name p (.int millis) = .ok v →
      stored e name p (.int later) = .ok v' → v.NotLater v' := by
  refine ⟨?_, fun error => ?_, fun isDatetime v => ?_, fun isDate v => ?_, ?_⟩
  · have bounds : -9223372036854775808 ≤ millis.toInt ∧ millis.toInt < 9223372036854775808 :=
      ⟨millis.le_toInt, millis.toInt_lt⟩
    have least : Int64.minValue.toInt = -9223372036854775808 := rfl
    have greatest : Int64.maxValue.toInt = 9223372036854775807 := rfl
    have size : UInt32.size = 4294967296 := rfl
    omega
  · rw [stored_int_eq_error_iff plain temporal, Moment.ofEpochMillis?_eq_none_iff_year]
  · rw [stored_int_eq_ok_iff plain temporal, isDatetime]
    refine exists_congr fun t => ?_
    rw [if_neg (by decide), Moment.ofEpochMillis?_eq_some_iff]
    constructor
    · rintro ⟨⟨regular, distance⟩, rfl⟩
      exact ⟨rfl, regular.valid, regular.second, Moment.wholeMillis regular distance, distance⟩
    · rintro ⟨rfl, valid, second, -, distance⟩
      exact ⟨⟨⟨valid, second⟩, distance⟩, rfl⟩
  · rw [stored_int_eq_ok_iff plain temporal, isDate]
    simp only [if_true, ← Moment.exists_ofEpochMillis?_date_iff]
    constructor
    · rintro ⟨t, found, rfl⟩
      exact ⟨t.date, rfl, t, found, rfl⟩
    · rintro ⟨d, rfl, t, found, rfl⟩
      exact ⟨t, found, rfl⟩
  · intro later v v' le ofMillis ofLater
    obtain ⟨t, found, rfl⟩ := (stored_int_eq_ok_iff plain temporal).mp ofMillis
    obtain ⟨t', found', rfl⟩ := (stored_int_eq_ok_iff plain temporal).mp ofLater
    have notLater := Moment.notLater_of_le (Int64.le_iff_toInt_le.mp le) found found'
    split
    · exact .date notLater.1
    · exact .moment notLater.2

/-- One millisecond before the epoch: the last moment and the date of the day before it. -/
theorem stored_millis_before :
    stored ⟨"User", "t_user", .empty⟩ "seenAt" ⟨"seen_at", .datetime, false, false⟩ (.int (-1)) =
        .ok (.moment ⟨⟨1969, 12, 31⟩, 23, 59, 59, 999000000⟩) ∧
      stored ⟨"User", "t_user", .empty⟩ "birthday" ⟨"birthday", .date, false, false⟩ (.int (-1)) =
        .ok (.date ⟨1969, 12, 31⟩) := by
  obtain ⟨-, -, ofMoment, -, -⟩ := stored_millis ⟨"User", "t_user", .empty⟩ "seenAt"
    (p := ⟨"seen_at", .datetime, false, false⟩) rfl rfl (-1)
  obtain ⟨-, -, -, ofDate, -⟩ := stored_millis ⟨"User", "t_user", .empty⟩ "birthday"
    (p := ⟨"birthday", .date, false, false⟩) rfl rfl (-1)
  constructor
  · refine (ofMoment rfl _).mpr ⟨_, rfl, ⟨rfl, ?_, ?_, ?_, ?_⟩, ?_, ⟨999, ?_⟩, ?_⟩
    all_goals decide
  · exact (ofDate rfl _).mpr ⟨_, rfl, rfl, by decide⟩

end Assignment

end BoundQuery
