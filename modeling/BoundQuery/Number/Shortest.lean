import BoundQuery.Number.Binary64

/-!
# The fewest digits that read back

The shortest decimal of a positive floating-point number is the one with the fewest digits among
those that round to the number; of several, the one nearest to it. Decimals that round to
`m * 2 ^ q` fill an interval around it, which holds its ends exactly when `m` is even. On the grid
of decimals with `n` digits it is enough to look at the two neighbours of the number.

## Main definitions

* `Decimal`, a decimal number `digits * 10 ^ exponent`
* `Tie`, the choice between two decimals that are equally near
* `Decimal.shortest`, the shortest decimal of `m * 2 ^ q`
-/

namespace BoundQuery

/-- The number `digits * 10 ^ exponent`. -/
structure Decimal where
  digits : Nat
  exponent : Int
  deriving DecidableEq

/-- Which of two equally near decimals to take. -/
inductive Tie where
  | toEven
  | away
  deriving DecidableEq

namespace Decimal

/-- The number of decimal digits of `n`. -/
def digitCount (n : Nat) : Nat :=
  (Nat.toDigits 10 n).length

/-- The place of the leading digit of `num / den`: the `p` with `10 ^ p ≤ num / den < 10 ^ (p + 1)`,
for positive arguments. -/
def leadingPlace (num den : Nat) : Int :=
  if den ≤ num then (digitCount (num / den) : Int) - 1
  else
    let d := digitCount (den / num)
    if den ≤ num * Nat.pow 10 (d - 1) then 1 - (d : Int) else -(d : Int)

/-- Move trailing zeros of the digits into the exponent, at most `fuel` of them. -/
def dropZeros : Nat → Decimal → Decimal
  | 0, d => d
  | fuel + 1, d =>
    if d.digits ≠ 0 ∧ d.digits % 10 = 0 then dropZeros fuel ⟨d.digits / 10, d.exponent + 1⟩ else d

/-- The interval of what rounds to `m * 2 ^ q`, in units of `2 ^ (q - 2)`. The gap below a power of
two is half the gap above it. -/
def bounds (m : Nat) (q : Int) : Nat × Nat :=
  (if m = Binary64.leastNormal ∧ Binary64.minExponent < q then 4 * m - 1 else 4 * m - 2, 4 * m + 2)

/-- The grid point of `10 ^ k` that rounds to `m * 2 ^ q` and is nearest to it, if there is one. -/
def onGrid (tie : Tie) (m : Nat) (q k : Int) : Option Nat :=
  -- in a common scale, one grid step is `step` and `x * 2 ^ (q - 2)` is `x * unit`
  let step := Nat.pow 10 k.toNat * Nat.pow 2 (2 - q).toNat
  let unit := Nat.pow 2 (q - 2).toNat * Nat.pow 10 (-k).toNat
  let (low, high) := bounds m q
  let inside (d : Nat) : Bool :=
    let x := d * step
    if m % 2 = 0 then low * unit ≤ x && x ≤ high * unit else low * unit < x && x < high * unit
  let value := 4 * m * unit
  let below := value / step
  let above := below + 1
  match inside below, inside above with
  | false, false => none
  | true, false => some below
  | false, true => some above
  | true, true =>
    let toBelow := value - below * step
    let toAbove := above * step - value
    if toBelow < toAbove then some below
    else if toAbove < toBelow then some above
    else match tie with
      | .away => some above
      | .toEven => some (if below % 2 = 0 then below else above)

/-- The first grid with a hit, from the grid of `10 ^ k` to finer ones. -/
def firstGrid (tie : Tie) (m : Nat) (q : Int) : Nat → Int → Option Decimal
  | 0, _ => none
  | fuel + 1, k =>
    match onGrid tie m q k with
    | some d => some ⟨d, k⟩
    | none => firstGrid tie m q fuel (k - 1)

/-- The shortest decimal of `m * 2 ^ q`: 17 digits always suffice. -/
def shortest (tie : Tie) (m : Nat) (q : Int) : Decimal :=
  let (num, den) := Binary64.ratio m q
  match firstGrid tie m q 17 (leadingPlace num den) with
  | some d => dropZeros 17 d
  | none => ⟨0, 0⟩

end Decimal

end BoundQuery
