import BoundQuery.Calendar.Moment
import BoundQuery.Proofs.Digits
import Mathlib.Data.List.Basic

/-!
# The ISO forms of dates and moments read back

Reading accepts many spellings and writing chooses one of them: numbers padded with zeros, a sign
only for years outside 0 to 9999, and a fraction of three, six or nine digits. What is read is a
date or a moment of the calendar, and each of them reads back from its ISO form. The form of a date
is not taken for a moment.

## Main definitions

* `Date.Valid`, `Moment.Valid`, the dates and moments of the calendar

## Main results

* `Date.valid_of_read?`, `Moment.valid_of_read?` — reading gives dates and moments of the calendar
* `Date.read?_text`, `Moment.read?_text` — the ISO forms read back
* `Moment.read?_dateText` — the form of a date is no moment
-/

namespace BoundQuery

open Text

namespace Date

/-! ### Padded numbers -/

variable {w n : Nat}

theorem digitsValue_padded (w n : Nat) : digitsValue (padded w n) = n := by
  rw [padded, digitsValue_zeros, digitsValue_toDigits]

theorem isDigit_of_mem_padded {c : Char} (member : c ∈ padded w n) : c.isDigit := by
  rcases List.mem_append.mp member with member | member
  · rw [List.eq_of_mem_replicate member]
    rfl
  · exact Nat.isDigit_of_mem_toDigits (by decide) (by decide) member

/-- A number that fits is padded to the width. -/
theorem length_padded (positive : 0 < w) (fits : n < Nat.pow 10 w) :
    (padded w n).length = w := by
  have short : (Nat.toDigits 10 n).length ≤ w :=
    (Nat.length_toDigits_le_iff (by decide) positive).mpr fits
  rw [padded, List.length_append, List.length_replicate]
  omega

theorem padded_ne_nil : padded w n ≠ [] := by
  simp [padded, Nat.toDigits_ne_nil]

/-! ### Reading the parts -/

theorem dropBlanks_of_not_blank {c : Char} {cs : List Char} (notBlank : isBlank c = false) :
    dropBlanks (c :: cs) = c :: cs := by
  simp [dropBlanks, notBlank]

theorem readMark?_cons {mark : Char} (notBlank : isBlank mark = false) (rest : List Char) :
    readMark? mark (mark :: rest) = some rest := by
  rw [readMark?, dropBlanks_of_not_blank notBlank]
  simp

theorem readPair?_padded (fits : n < 100) (rest : List Char) :
    readPair? (padded 2 n ++ rest) = some (n, rest) := by
  obtain ⟨a, b, two⟩ := List.length_eq_two.mp (length_padded (w := 2) (by decide) fits)
  have value : digitsValue [a, b] = n := by rw [← two, digitsValue_padded]
  have first : a.isDigit := isDigit_of_mem_padded (w := 2) (n := n) (by simp [two])
  have second : b.isDigit := isDigit_of_mem_padded (w := 2) (n := n) (by simp [two])
  rw [two, readPair?, List.cons_append, dropBlanks_of_not_blank (not_isBlank_of_isDigit first)]
  simp [first, second, value]

/-- Behind a sign the year has any number of digits. -/
theorem readYear?_signed {sign : Char} (isSign : sign = '+' ∨ sign = '-') {ds rest : List Char}
    (digits : ∀ c ∈ ds, c.isDigit) (some : ds ≠ [])
    (ends : ∀ c ∈ rest.head?, c.isDigit = false) :
    readYear? (sign :: ds ++ rest) =
      .some (if sign = '-' then -(digitsValue ds : Int) else digitsValue ds, rest) := by
  have notBlank : isBlank sign = false := by rcases isSign with rfl | rfl <;> rfl
  obtain ⟨taken, dropped⟩ := takeWhile_digits digits ends
  rw [readYear?, List.cons_append, dropBlanks_of_not_blank notBlank]
  simp [isSign, taken, dropped, some]

/-- Without a sign the year has four digits at most. -/
theorem readYear?_unsigned {ds : List Char} (digits : ∀ c ∈ ds, c.isDigit)
    (four : ds.length = 4) (rest : List Char) :
    readYear? (ds ++ rest) = some ((digitsValue ds : Int), rest) := by
  obtain ⟨c, cs, rfl⟩ : ∃ c cs, ds = c :: cs := List.exists_cons_of_length_eq_add_one four
  have digit : c.isDigit := digits c List.mem_cons_self
  have notSign : ¬ (c = '+' ∨ c = '-') := by
    rintro (rfl | rfl) <;> cases digit
  have taken : ((c :: (cs ++ rest)).take 4).takeWhile Char.isDigit = c :: cs := by
    rw [← List.cons_append, ← four, List.take_left, List.takeWhile_eq_self_iff]
    exact digits
  rw [readYear?, List.cons_append, dropBlanks_of_not_blank (not_isBlank_of_isDigit digit)]
  simp only [notSign, if_false, taken]
  simp

/-- The year is read up to the mark behind it. -/
theorem readYear?_yearText (year : Int) (rest : List Char) :
    readYear? (yearText year ++ '-' :: rest) = some (year, '-' :: rest) := by
  have digits : ∀ c ∈ padded 4 year.natAbs, c.isDigit := fun c => isDigit_of_mem_padded
  have value := digitsValue_padded 4 year.natAbs
  have ends : ∀ c ∈ ('-' :: rest).head?, c.isDigit = false := by
    intro c isHead
    cases isHead
    rfl
  rw [yearText]
  split
  · rw [readYear?_signed (.inr rfl) digits padded_ne_nil ends, value, if_pos rfl]
    congr
    omega
  · split
    · rw [readYear?_signed (.inl rfl) digits padded_ne_nil ends, value, if_neg (by decide)]
      congr
      omega
    · have four := length_padded (w := 4) (by decide) (show year.natAbs < 10000 by omega)
      rw [readYear?_unsigned digits four, value]
      congr
      omega

/-! ### Dates -/

/-- A date of the calendar. -/
def Valid (d : Date) : Prop :=
  of? d.year d.month d.day = some d

variable {d : Date}

theorem valid_of_of? {year : Int} {month day : Nat} (found : of? year month day = some d) :
    d.Valid := by
  have parts := found
  rw [of?] at parts
  split at parts
  · cases parts
    exact found
  · cases parts

theorem daysInMonth_le (year : Int) (month : Nat) :
    daysInMonth year month ≤ 31 ∧ (daysInMonth year month ≠ 0 → month ≤ 12) := by
  fun_cases daysInMonth year month <;> simp

/-- Months and days have two digits at most. -/
theorem Valid.bounds (valid : d.Valid) : d.month < 100 ∧ d.day < 100 := by
  rw [Valid, of?] at valid
  split at valid
  · next inside =>
    simp only [Bool.and_eq_true, decide_eq_true_eq] at inside
    obtain ⟨⟨-, positive⟩, days⟩ := inside
    have bounds := daysInMonth_le d.year d.month
    omega
  · cases valid

/-- A date in front of something that continues no number. -/
theorem readFront?_chars (valid : d.Valid) (rest : List Char) :
    readFront? (d.chars ++ rest) = some (d, rest) := by
  obtain ⟨month, day⟩ := valid.bounds
  have parts : d.chars ++ rest = yearText d.year ++
      '-' :: (padded 2 d.month ++ '-' :: (padded 2 d.day ++ rest)) := by
    simp [chars]
  rw [parts, readFront?, readYear?_yearText]
  simp only [bind, Option.bind, readMark?_cons (show isBlank '-' = false from rfl),
    readPair?_padded month, readPair?_padded day]
  rw [show of? d.year d.month d.day = some d from valid]
  rfl

/-- The ISO form of a date reads back. -/
theorem read?_text (valid : d.Valid) : read? d.text = some d := by
  have front := readFront?_chars valid []
  rw [List.append_nil] at front
  rw [read?, text, String.toList_ofList, front]
  rfl

theorem valid_of_readFront? {cs rest : List Char} (found : readFront? cs = some (d, rest)) :
    d.Valid := by
  rw [readFront?] at found
  simp only [bind, Option.bind_eq_some_iff] at found
  obtain ⟨year, -, behindYear, -, month, -, behindMonth, -, day, -, date, isDate, same⟩ := found
  cases same
  exact valid_of_of? isDate

/-- Reading gives dates of the calendar. -/
theorem valid_of_read? {s : String} (found : read? s = some d) : d.Valid := by
  rw [read?] at found
  obtain ⟨⟨date, rest⟩, front, found⟩ := Option.bind_eq_some_iff.mp found
  dsimp only at found
  split at found
  · cases found
    exact valid_of_readFront? front
  · cases found

end Date

/-! ### Moments -/

namespace Moment

/-- A moment of the calendar. The second 60 is a leap second. -/
structure Valid (m : Moment) : Prop where
  date : m.date.Valid
  hour : m.hour < 24
  minute : m.minute < 60
  second : m.second ≤ 60
  nanosecond : m.nanosecond < 1000000000

variable {m : Moment}

/-- The digits of a fraction give its nanoseconds. -/
theorem readFraction?_digits {ds : List Char} (digits : ∀ c ∈ ds, c.isDigit) (some : ds ≠ [])
    (nine : ds.length ≤ 9) :
    readFraction? ('.' :: ds) = .some (digitsValue ds * Nat.pow 10 (9 - ds.length), []) := by
  have taken := @takeWhile_digits ds [] digits (by simp)
  rw [List.append_nil] at taken
  simp [readFraction?, taken, some, List.take_of_length_le nine]

theorem readFraction?_fraction {nanosecond : Nat} (fits : nanosecond < 1000000000) :
    readFraction? (fraction nanosecond) = some (nanosecond, []) := by
  have digits : ∀ {w n : Nat}, ∀ c ∈ Date.padded w n, c.isDigit :=
    fun c => Date.isDigit_of_mem_padded
  have padded : ∀ {w n : Nat}, 0 < w → w ≤ 9 → n < Nat.pow 10 w →
      readFraction? ('.' :: Date.padded w n) = some (n * Nat.pow 10 (9 - w), []) := by
    intro w n positive nine fits
    have length := Date.length_padded positive fits
    rw [readFraction?_digits digits Date.padded_ne_nil (by omega), length, Date.digitsValue_padded]
  rw [fraction]
  split
  · next zero => rw [zero]; rfl
  · split
    · have three : nanosecond / 1000000 < 1000 := by omega
      have back : nanosecond / 1000000 * 1000000 = nanosecond := by omega
      rw [padded (by decide) (by decide) three]
      exact congrArg (fun n => some (n, [])) back
    · split
      · have six : nanosecond / 1000 < 1000000 := by omega
        have back : nanosecond / 1000 * 1000 = nanosecond := by omega
        rw [padded (by decide) (by decide) six]
        exact congrArg (fun n => some (n, [])) back
      · rw [padded (by decide) (by decide) fits]
        exact congrArg (fun n => some (n, [])) (Nat.mul_one nanosecond)

/-- The ISO form of a moment reads back. -/
theorem read?_text (valid : m.Valid) : read? m.text = some m := by
  have parts : m.chars = m.date.chars ++ 'T' :: (Date.padded 2 m.hour ++
      ':' :: (Date.padded 2 m.minute ++ ':' :: (Date.padded 2 m.second ++
        fraction m.nanosecond))) := by
    simp [chars, clock]
  have hour : m.hour < 100 := Nat.lt_trans valid.hour (by decide)
  have minute : m.minute < 100 := Nat.lt_trans valid.minute (by decide)
  have second : m.second < 100 := Nat.lt_of_le_of_lt valid.second (by decide)
  rw [read?, text, String.toList_ofList, parts, Date.readFront?_chars valid.date]
  simp only [bind, Option.bind, Date.readMark?_cons (show isBlank 'T' = false from rfl),
    Date.readMark?_cons (show isBlank ':' = false from rfl), Date.readPair?_padded hour,
    Date.readPair?_padded minute, Date.readPair?_padded second,
    readFraction?_fraction valid.nanosecond]
  rw [if_pos]
  · rfl
  · simp [valid.hour, valid.minute, valid.second, dropBlanks]

/-- The ISO form of a date is no moment. -/
theorem read?_dateText {d : Date} (valid : d.Valid) : read? d.text = none := by
  have front := Date.readFront?_chars valid []
  rw [List.append_nil] at front
  rw [read?, Date.text, String.toList_ofList, front]
  rfl

theorem lt_of_readFraction? {cs rest : List Char} {nanosecond : Nat}
    (found : readFraction? cs = some (nanosecond, rest)) : nanosecond < 1000000000 := by
  rw [readFraction?.eq_def] at found
  split at found
  · next ds =>
    dsimp only at found
    split at found
    · cases found
    · generalize isKept : (ds.takeWhile Char.isDigit).take 9 = kept at found
      have digits : ∀ c ∈ kept, c.isDigit := by
        intro c member
        rw [← isKept] at member
        exact List.mem_takeWhile_imp (List.mem_of_mem_take member)
      have nine : kept.length ≤ 9 := by
        rw [← isKept]
        exact List.length_take_le _ _
      cases found
      calc
        digitsValue kept * Nat.pow 10 (9 - kept.length) <
            Nat.pow 10 kept.length * Nat.pow 10 (9 - kept.length) :=
          Nat.mul_lt_mul_of_pos_right (digitsValue_lt digits) (Nat.pow_pos (by decide))
        _ = Nat.pow 10 9 := by
          rw [Nat.pow_eq, Nat.pow_eq, ← Nat.pow_add, Nat.add_sub_cancel' nine, Nat.pow_eq]
  · cases found
    decide

/-- Reading gives moments of the calendar. -/
theorem valid_of_read? {s : String} (found : read? s = some m) : m.Valid := by
  rw [read?] at found
  simp only [bind, Option.bind_eq_some_iff] at found
  obtain ⟨⟨date, _⟩, front, _, -, ⟨hour, _⟩, -, _, -, ⟨minute, _⟩, -, _, -, ⟨second, _⟩, -,
    ⟨nanosecond, rest⟩, fraction, found⟩ := found
  dsimp only at found
  split at found
  · next inside =>
    simp only [Bool.and_eq_true, decide_eq_true_eq] at inside
    cases found
    exact ⟨Date.valid_of_readFront? front, inside.1.1.2, inside.1.2, inside.2,
      lt_of_readFraction? fraction⟩
  · cases found

end Moment

end BoundQuery
