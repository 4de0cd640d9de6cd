import BoundQuery.Json.Basic
import BoundQuery.Json.Parser

/-!
# Scalars without quotes

A scalar that stands in a document without quotes is read by its spelling: as null, as a truth
value, as a whole number in one of four bases, as a floating-point number, or else as text.

## Main definitions

* `PlainScalar.isNull`, `PlainScalar.flag?`, the fixed spellings
* `PlainScalar.resolve?`, the value of a scalar
* `PlainScalar.position?`, a scalar as a position in a list
-/

namespace BoundQuery.PlainScalar

/-- The spellings of null, the empty scalar among them. -/
def isNull (s : String) : Bool :=
  s == "" || s == "~" || s == "null" || s == "Null" || s == "NULL"

/-- The spellings of the truth values. -/
def flag? (s : String) : Option Bool :=
  if s == "true" || s == "True" || s == "TRUE" then some true
  else if s == "false" || s == "False" || s == "FALSE" then some false
  else none

/-- The value of digits in a base, at least one digit. -/
def natIn? (base : Nat) (cs : List Char) : Option Nat :=
  if cs.isEmpty then none
  else cs.foldl (fun acc c => do
    let n ← acc
    let d ← Json.hexValue? c
    if d < base then some (base * n + d) else none) (some 0)

/-- An unsigned whole number: decimal, or with the mark of its base in front. -/
def unsigned? : List Char → Option Nat
  | '0' :: 'x' :: cs => natIn? 16 cs
  | '0' :: 'o' :: cs => natIn? 8 cs
  | '0' :: 'b' :: cs => natIn? 2 cs
  | cs => natIn? 10 cs

/-- Several digits of which the first is zero, behind an optional sign: these are text. -/
def hasLeadingZero (s : String) : Bool :=
  match (takeSign s.toList).2 with
  | '0' :: c :: cs => (c :: cs).all Char.isDigit
  | _ => false

/-- A whole number with an optional sign. -/
def integer? (s : String) : Option Int :=
  if hasLeadingZero s then none
  else
    let (negative, cs) := takeSign s.toList
    (unsigned? cs).map fun n => if negative then -(n : Int) else n

/-- A floating-point number: a finite decimal, or one of the spellings of infinity and NaN. -/
def float? (s : String) : Option Binary64 :=
  if hasLeadingZero s then none
  else if s == ".nan" || s == ".NaN" || s == ".NAN" then some .nan
  else
    let (negative, cs) := takeSign s.toList
    let word := String.ofList cs
    if word == ".inf" || word == ".Inf" || word == ".INF" then some (.infinity negative)
    else match Binary64.readUnsigned? negative cs with
      | some x => if x.isFinite then some x else none
      | none => none

/-- The value of a scalar. A whole number of more than 64 bits has none, unless it has more than
128 bits: then it is read as a floating-point number. -/
def resolve? (s : String) : Option Json :=
  if isNull s then some .null
  else match flag? s with
    | some b => some (.bool b)
    | none =>
      let asFloat := match float? s with
        | some x => some (.float x)
        | none => some (.str s)
      match integer? s with
      | some i =>
        if -0x8000000000000000 ≤ i ∧ i < 0x10000000000000000 then some (.int i)
        else if -0x80000000000000000000000000000000 ≤ i ∧ i < 0x100000000000000000000000000000000 then none
        else asFloat
      | none => asFloat

/-- The whole number of a scalar without a minus sign, of 64 bits at most. -/
def position? (s : String) : Option Nat :=
  match s.toList with
  | '-' :: _ => none
  | _ => (integer? s).bind fun i => if i < 0x10000000000000000 then some i.toNat else none

end BoundQuery.PlainScalar
