import BoundQuery.Number.Shortest

/-!
# Numbers as text

Floating-point numbers are written with their shortest digits, in positional or in scientific form
as a `NumberStyle` decides, and read as the nearest number to a decimal text.

## Main definitions

* `NumberStyle`, the decisions of a number format
* `NumberStyle.write`, a finite number as text
* `Binary64.read?`, the number nearest to a decimal text
-/

namespace BoundQuery

/-- The decisions of a format for floating-point numbers. -/
structure NumberStyle where
  /-- The choice between two equally near shortest decimals. -/
  tie : Tie
  /-- Is a number with its leading digit at this place written without an exponent? -/
  positional : Int → Bool
  /-- Is a whole number written with `.0`? -/
  pointZero : Bool

namespace NumberStyle

/-- `count` zeros. -/
def zeros (count : Nat) : List Char :=
  List.replicate count '0'

/-- The digits without an exponent. -/
def writePositional (pointZero : Bool) (digits : List Char) (exponent : Int) : List Char :=
  if 0 ≤ exponent then
    digits ++ zeros exponent.toNat ++ (if pointZero then ['.', '0'] else [])
  else
    let places := (-exponent).toNat
    if places < digits.length then
      digits.take (digits.length - places) ++ '.' :: digits.drop (digits.length - places)
    else
      '0' :: '.' :: zeros (places - digits.length) ++ digits

/-- One digit before the point, and the exponent with its sign. -/
def writeScientific (digits : List Char) (place : Int) : List Char :=
  let mantissa := match digits with
    | [] => []
    | [d] => [d]
    | d :: ds => d :: '.' :: ds
  mantissa ++ 'e' :: (if place < 0 then '-' else '+') :: Nat.toDigits 10 place.natAbs

/-- A finite number as text; its sign is kept on zero too. -/
def write (style : NumberStyle) (negative : Bool) (significand : Nat) (exponent : Int) : String :=
  let body :=
    if significand = 0 then writePositional style.pointZero ['0'] 0
    else
      let d := Decimal.shortest style.tie significand exponent
      let digits := Nat.toDigits 10 d.digits
      let place := (digits.length : Int) + d.exponent - 1
      if style.positional place then writePositional style.pointZero digits d.exponent
      else writeScientific digits place
  String.ofList (if negative then '-' :: body else body)

end NumberStyle

/-- The value of a run of decimal digits. -/
def digitsValue (cs : List Char) : Nat :=
  cs.foldl (fun n c => 10 * n + (c.toNat - '0'.toNat)) 0

/-- A sign, if there is one, and the rest. -/
def takeSign : List Char → Bool × List Char
  | '-' :: cs => (true, cs)
  | '+' :: cs => (false, cs)
  | cs => (false, cs)

/-- An exponent part, or its absence: the exponent, when nothing is left behind it. -/
def exponentPart? : List Char → Option Int
  | [] => some 0
  | e :: cs =>
    if e = 'e' ∨ e = 'E' then
      let (negative, ds) := takeSign cs
      if ds.isEmpty || !ds.all Char.isDigit then none
      else some (if negative then -(digitsValue ds : Int) else digitsValue ds)
    else none

namespace Binary64

/-- The number nearest to an unsigned decimal text, with a point, an exponent, or neither. -/
def readUnsigned? (negative : Bool) (cs : List Char) : Option Binary64 :=
  let whole := cs.takeWhile Char.isDigit
  let rest := cs.dropWhile Char.isDigit
  let (places, rest) := match rest with
    | '.' :: r => (r.takeWhile Char.isDigit, r.dropWhile Char.isDigit)
    | r => ([], r)
  if whole.isEmpty && places.isEmpty then none
  else (exponentPart? rest).map fun e =>
    ofDecimal negative (digitsValue (whole ++ places)) (e - places.length)

/-- The number nearest to a decimal text with an optional sign; the words for infinity and NaN are
read in any case. -/
def read? (s : String) : Option Binary64 :=
  let (negative, cs) := takeSign s.toList
  let word := String.ofList (cs.map Char.toLower)
  if word = "inf" ∨ word = "infinity" then some (.infinity negative)
  else if word = "nan" then some .nan
  else readUnsigned? negative cs

end Binary64

end BoundQuery
