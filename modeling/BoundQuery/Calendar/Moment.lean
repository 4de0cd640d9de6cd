import BoundQuery.Calendar.Date

/-!
# Points in time

A moment is a date and a time of day without a zone. The second 60 is a leap second.

## Main definitions

* `Moment`, a date and a time of day
* `Moment.ofEpochMillis?`, the moment a number of milliseconds after 1970-01-01T00:00:00
* `Moment.text`, `Moment.read?`, the ISO form of a moment
-/

namespace BoundQuery

/-- A date and a time of day. -/
structure Moment where
  date : Date
  hour : Nat
  minute : Nat
  second : Nat
  nanosecond : Nat
  deriving DecidableEq

namespace Moment

/-- 1970-01-01T00:00:00. -/
def epoch : Moment := ⟨Date.epoch, 0, 0, 0, 0⟩

/-- The moment `millis` milliseconds after the epoch, when its year is in the calendar. -/
def ofEpochMillis? (millis : Int) : Option Moment :=
  let seconds := millis / 1000
  let date := Date.ofEpochDays (seconds / 86400)
  let ofDay := (seconds % 86400).toNat
  if Date.inRange date.year then
    some ⟨date, ofDay / 3600, ofDay / 60 % 60, ofDay % 60, (millis % 1000).toNat * 1000000⟩
  else none

/-- The fraction of a second with three, six or nine digits, whichever is the first to be exact;
nothing for a whole second. -/
def fraction (nanosecond : Nat) : List Char :=
  if nanosecond = 0 then []
  else if nanosecond % 1000000 = 0 then '.' :: Date.padded 3 (nanosecond / 1000000)
  else if nanosecond % 1000 = 0 then '.' :: Date.padded 6 (nanosecond / 1000)
  else '.' :: Date.padded 9 nanosecond

/-- Hours, minutes and whole seconds. -/
def clock (m : Moment) : List Char :=
  Date.padded 2 m.hour ++ ':' :: Date.padded 2 m.minute ++ ':' :: Date.padded 2 m.second

/-- The characters of the ISO form. -/
def chars (m : Moment) : List Char :=
  m.date.chars ++ 'T' :: m.clock ++ fraction m.nanosecond

/-- The ISO form. -/
def text (m : Moment) : String :=
  String.ofList m.chars

/-- The form with a blank between date and time, to the whole second. -/
def spacedText (m : Moment) : String :=
  String.ofList (m.date.chars ++ ' ' :: m.clock)

/-- An optional fraction of a second, in nanoseconds: digits past the ninth are dropped. -/
def readFraction? : List Char → Option (Nat × List Char)
  | '.' :: cs =>
    let ds := cs.takeWhile Char.isDigit
    if ds.isEmpty then none
    else
      let kept := ds.take 9
      some (digitsValue kept * Nat.pow 10 (9 - kept.length), cs.dropWhile Char.isDigit)
  | cs => some (0, cs)

/-- The moment of a text: blanks may stand around its numbers, but not before a fraction. -/
def read? (s : String) : Option Moment := do
  let (date, cs) ← Date.readFront? s.toList
  let cs ← Date.readMark? 'T' cs
  let (hour, cs) ← Date.readPair? cs
  let cs ← Date.readMark? ':' cs
  let (minute, cs) ← Date.readPair? cs
  let cs ← Date.readMark? ':' cs
  let (second, cs) ← Date.readPair? cs
  let (nanosecond, cs) ← readFraction? cs
  if (Text.dropBlanks cs).isEmpty && hour < 24 && minute < 60 && second ≤ 60 then
    return ⟨date, hour, minute, second, nanosecond⟩
  else none

end Moment

end BoundQuery
