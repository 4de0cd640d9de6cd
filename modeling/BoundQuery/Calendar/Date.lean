import BoundQuery.Number.Text
import BoundQuery.Text.Blank

/-!
# Calendar dates

Dates of the proleptic Gregorian calendar, with the year 0 before the year 1. Years run from
`-262143` to `262142`.

## Main definitions

* `Date`, a date, and `Date.of?`, which accepts exactly the dates of the calendar
* `Date.ofEpochDays`, the date a number of days after 1970-01-01
* `Date.text`, `Date.read?`, the ISO form of a date
-/

namespace BoundQuery

/-- A date of the calendar. -/
structure Date where
  year : Int
  month : Nat
  day : Nat
  deriving DecidableEq

/-- Does the year have 366 days? -/
def isLeapYear (year : Int) : Bool :=
  year % 4 == 0 && (year % 100 != 0 || year % 400 == 0)

/-- The number of days of a month; no days outside the twelve months. -/
def daysInMonth (year : Int) (month : Nat) : Nat :=
  match month with
  | 1 | 3 | 5 | 7 | 8 | 10 | 12 => 31
  | 4 | 6 | 9 | 11 => 30
  | 2 => if isLeapYear year then 29 else 28
  | _ => 0

namespace Date

/-- The first year of the calendar. -/
def minYear : Int := -262143

/-- The last year of the calendar. -/
def maxYear : Int := 262142

/-- Is the year one of the calendar's? -/
def inRange (year : Int) : Bool :=
  minYear ≤ year && year ≤ maxYear

/-- The date of a year, month and day, when the calendar has it. -/
def of? (year : Int) (month day : Nat) : Option Date :=
  if inRange year && 1 ≤ day && day ≤ daysInMonth year month then some ⟨year, month, day⟩ else none

/-- 1970-01-01. -/
def epoch : Date := ⟨1970, 1, 1⟩

/-- The date `n` days after 1970-01-01. Years are counted from March on, so that a leap day ends
its year, within cycles of 400 years or 146097 days. -/
def ofEpochDays (n : Int) : Date :=
  let days := n + 719468
  let cycle := days / 146097
  let dayOfCycle := days % 146097
  let yearOfCycle :=
    (dayOfCycle - dayOfCycle / 1460 + dayOfCycle / 36524 - dayOfCycle / 146096) / 365
  let dayOfYear := dayOfCycle - (365 * yearOfCycle + yearOfCycle / 4 - yearOfCycle / 100)
  let monthFromMarch := (5 * dayOfYear + 2) / 153
  let day := dayOfYear - (153 * monthFromMarch + 2) / 5 + 1
  let month := if monthFromMarch < 10 then monthFromMarch + 3 else monthFromMarch - 9
  ⟨yearOfCycle + 400 * cycle + (if month ≤ 2 then 1 else 0), month.toNat, day.toNat⟩

/-- At least `width` decimal digits. -/
def padded (width n : Nat) : List Char :=
  let ds := Nat.toDigits 10 n
  List.replicate (width - ds.length) '0' ++ ds

/-- Four digits for the years 0 to 9999; a sign and at least four digits for all others. -/
def yearText (year : Int) : List Char :=
  if year < 0 then '-' :: padded 4 year.natAbs
  else if 9999 < year then '+' :: padded 4 year.natAbs
  else padded 4 year.natAbs

/-- The characters of the ISO form: year, month and day. -/
def chars (d : Date) : List Char :=
  yearText d.year ++ '-' :: padded 2 d.month ++ '-' :: padded 2 d.day

/-- The ISO form: year, month and day. -/
def text (d : Date) : String :=
  String.ofList d.chars

/-- One or two digits, behind blanks. -/
def readPair? (cs : List Char) : Option (Nat × List Char) :=
  match Text.dropBlanks cs with
  | c :: rest =>
    if c.isDigit then
      match rest with
      | d :: rest' =>
        if d.isDigit then some (digitsValue [c, d], rest') else some (digitsValue [c], rest)
      | [] => some (digitsValue [c], [])
    else none
  | [] => none

/-- One to four digits, or a sign and any number of digits, behind blanks. -/
def readYear? (cs : List Char) : Option (Int × List Char) :=
  match Text.dropBlanks cs with
  | [] => none
  | c :: rest =>
    if c = '+' ∨ c = '-' then
      let ds := rest.takeWhile Char.isDigit
      if ds.isEmpty then none
      else some (if c = '-' then -(digitsValue ds : Int) else digitsValue ds,
        rest.dropWhile Char.isDigit)
    else
      let ds := ((c :: rest).take 4).takeWhile Char.isDigit
      if ds.isEmpty then none else some (digitsValue ds, (c :: rest).drop ds.length)

/-- The given character, behind blanks. -/
def readMark? (mark : Char) (cs : List Char) : Option (List Char) :=
  match Text.dropBlanks cs with
  | c :: rest => if c = mark then some rest else none
  | [] => none

/-- A date in front of other characters. -/
def readFront? (cs : List Char) : Option (Date × List Char) := do
  let (year, cs) ← readYear? cs
  let cs ← readMark? '-' cs
  let (month, cs) ← readPair? cs
  let cs ← readMark? '-' cs
  let (day, cs) ← readPair? cs
  let date ← of? year month day
  return (date, cs)

/-- The date of a text: blanks may stand around its numbers. -/
def read? (s : String) : Option Date := do
  let (date, rest) ← readFront? s.toList
  if (Text.dropBlanks rest).isEmpty then return date else none

end Date

end BoundQuery
