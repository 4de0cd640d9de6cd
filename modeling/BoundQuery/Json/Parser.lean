import BoundQuery.Json.Basic
import BoundQuery.Number.Text

/-!
# Reading JSON

A reader takes characters and gives back what it read together with the characters that follow.
Reading fails as a whole on any text that is not one JSON document.

A number without fraction and exponent that fits 64 bits is an integer, apart from `-0`. Any other
number is read from its leading digits, as many as fit 64 bits unsigned, and then scaled by one
power of ten, each of the two steps rounded.

## Main definitions

* `Json.number?`, the value of a number's parts
* `Json.parse?`, the document of a text
-/

namespace BoundQuery.Json

/-- The greatest significand that digits are gathered into. -/
def significandLimit : Nat := 0xffffffffffffffff

/-- Gather whole digits into the significand; from the first that does not fit on, digits are only
counted. -/
def gatherWhole : List Char → Nat → Nat × Nat
  | [], m => (m, 0)
  | c :: cs, m =>
    let next := 10 * m + (c.toNat - '0'.toNat)
    if next ≤ significandLimit then gatherWhole cs next else (m, cs.length + 1)

/-- Gather digits behind the point, as far as they fit, and count them. -/
def gatherPlaces : List Char → Nat → Nat × Nat
  | [], m => (m, 0)
  | c :: cs, m =>
    let next := 10 * m + (c.toNat - '0'.toNat)
    if next ≤ significandLimit then
      let (result, count) := gatherPlaces cs next
      (result, count + 1)
    else (m, 0)

/-- `x * 10 ^ e`, by one rounded multiplication or division; far negative exponents take one more
division first, after which nothing but zero is left. Fails when the result is not finite. -/
def scale? : Nat → Binary64 → Int → Option Binary64
  | 0, _, _ => none
  | fuel + 1, x, e =>
    if e.natAbs ≤ 308 then
      let power := Binary64.ofDecimal false 1 e.natAbs
      let y := if 0 ≤ e then x.mul power else x.div power
      if y.isFinite then some y else none
    else if x.isZero then some x
    else if 0 ≤ e then none
    else scale? fuel (x.div (Binary64.ofDecimal false 1 308)) (e + 308)

/-- The value of a number from its sign, its whole digits, and its fraction and exponent if it has
them. -/
def number? (negative : Bool) (whole : List Char) (places : Option (List Char))
    (exponent : Option Int) : Option Json :=
  let (m, dropped) := gatherWhole whole 0
  if places.isNone && exponent.isNone && dropped == 0 &&
      !(negative && (m == 0 || 0x8000000000000000 < m)) then
    some (.int (if negative then -(m : Int) else m))
  else
    let (m, count) := gatherPlaces (places.getD []) m
    let e : Int := (dropped : Int) - count + exponent.getD 0
    (scale? 4 (Binary64.ofInt m) e).map fun x => .float (if negative then x.neg else x)

/-- Skip the blanks of JSON. -/
def skip (cs : List Char) : List Char :=
  cs.dropWhile fun c => c == ' ' || c == '\n' || c == '\t' || c == '\r'

/-- A run of digits, at least one. -/
def digits? (cs : List Char) : Option (List Char × List Char) :=
  let ds := cs.takeWhile Char.isDigit
  if ds.isEmpty then none else some (ds, cs.dropWhile Char.isDigit)

/-- An optional fraction. -/
def places? : List Char → Option (Option (List Char) × List Char)
  | '.' :: cs => (digits? cs).map fun (ds, rest) => (some ds, rest)
  | cs => some (none, cs)

/-- An optional exponent. -/
def exponent? : List Char → Option (Option Int × List Char)
  | [] => some (none, [])
  | c :: cs =>
    if c = 'e' ∨ c = 'E' then
      let (negative, cs) := takeSign cs
      (digits? cs).map fun (ds, rest) =>
        (some (if negative then -(digitsValue ds : Int) else digitsValue ds), rest)
    else some (none, c :: cs)

/-- The whole digits of a number. A leading zero stands alone. -/
def whole? : List Char → Option (List Char × List Char)
  | [] => none
  | c :: cs =>
    if c = '0' then if cs.head?.any Char.isDigit then none else some (['0'], cs)
    else digits? (c :: cs)

/-- A number behind its sign. -/
def unsigned? (negative : Bool) (cs : List Char) : Option (Json × List Char) := do
  let (whole, rest) ← whole? cs
  let (places, rest) ← places? rest
  let (exponent, rest) ← exponent? rest
  let value ← number? negative whole places exponent
  return (value, rest)

/-- A number. -/
def readNumber? : List Char → Option (Json × List Char)
  | [] => none
  | c :: cs => if c = '-' then unsigned? true cs else unsigned? false (c :: cs)

/-- The value of a hexadecimal digit. -/
def hexValue? (c : Char) : Option Nat :=
  if c.isDigit then some (c.toNat - '0'.toNat)
  else if 'a' ≤ c ∧ c ≤ 'f' then some (c.toNat - 'a'.toNat + 10)
  else if 'A' ≤ c ∧ c ≤ 'F' then some (c.toNat - 'A'.toNat + 10)
  else none

/-- Four hexadecimal digits. -/
def unit? : List Char → Option (Nat × List Char)
  | a :: b :: c :: d :: rest => do
    let a ← hexValue? a
    let b ← hexValue? b
    let c ← hexValue? c
    let d ← hexValue? d
    return (((a * 16 + b) * 16 + c) * 16 + d, rest)
  | _ => none

/-- The character of a `\u` escape: one unit, or two that form a surrogate pair. -/
def escapedUnit? (cs : List Char) : Option (Char × List Char) := do
  let (n, rest) ← unit? cs
  if n < 0xD800 || 0xDFFF < n then return (Char.ofNat n, rest)
  if 0xDC00 ≤ n then none
  match rest with
  | '\\' :: 'u' :: rest =>
    let (m, rest) ← unit? rest
    if m < 0xDC00 || 0xDFFF < m then none
    return (Char.ofNat (0x10000 + (n - 0xD800) * 0x400 + (m - 0xDC00)), rest)
  | _ => none

/-- The character behind a backslash. -/
def escape? : List Char → Option (Char × List Char)
  | '"' :: cs => some ('"', cs)
  | '\\' :: cs => some ('\\', cs)
  | '/' :: cs => some ('/', cs)
  | 'b' :: cs => some (Char.ofNat 8, cs)
  | 'f' :: cs => some (Char.ofNat 12, cs)
  | 'n' :: cs => some ('\n', cs)
  | 'r' :: cs => some ('\r', cs)
  | 't' :: cs => some ('\t', cs)
  | 'u' :: cs => escapedUnit? cs
  | _ => none

/-- The characters of a string up to its closing quote, behind its opening quote. -/
def stringChars? : Nat → List Char → List Char → Option (List Char × List Char)
  | 0, _, _ => none
  | _ + 1, _, [] => none
  | fuel + 1, before, c :: cs =>
    if c = '"' then some (before.reverse, cs)
    else if c = '\\' then do
      let (d, rest) ← escape? cs
      stringChars? fuel (d :: before) rest
    else if c.toNat < 32 then none
    else stringChars? fuel (c :: before) cs

/-- A string, from its opening quote on. -/
def readString? : List Char → Option (String × List Char)
  | '"' :: cs => (stringChars? (cs.length + 1) [] cs).map fun (s, rest) => (String.ofList s, rest)
  | _ => none

/-- The rest behind a fixed word. -/
def word? (word : List Char) (cs : List Char) : Option (List Char) :=
  if word.isPrefixOf cs then some (cs.drop word.length) else none

mutual

/-- A document. Every step into the text uses up fuel; the length of the text is enough. -/
def read? : Nat → List Char → Option (Json × List Char)
  | 0, _ => none
  | fuel + 1, cs =>
    let cs := skip cs
    match cs with
    | [] => none
    | 'n' :: _ => (word? ['n', 'u', 'l', 'l'] cs).map fun r => (.null, r)
    | 't' :: _ => (word? ['t', 'r', 'u', 'e'] cs).map fun r => (.bool true, r)
    | 'f' :: _ => (word? ['f', 'a', 'l', 's', 'e'] cs).map fun r => (.bool false, r)
    | '"' :: _ => (readString? cs).map fun (s, r) => (.str s, r)
    | '[' :: rest =>
      match skip rest with
      | ']' :: r => some (.arr [], r)
      | _ => (readItems? fuel rest).map fun (items, r) => (.arr items, r)
    | '\x7b' :: rest =>
      match skip rest with
      | '\x7d' :: r => some (.obj [], r)
      | _ => (readMembers? fuel [] rest).map fun (members, r) => (.obj members, r)
    | _ => readNumber? cs

/-- The items of a list, at least one, up to its closing bracket. -/
def readItems? : Nat → List Char → Option (List Json × List Char)
  | 0, _ => none
  | fuel + 1, cs => do
    let (item, rest) ← read? fuel cs
    match skip rest with
    | ']' :: r => return ([item], r)
    | ',' :: r =>
      let (items, r) ← readItems? fuel r
      return (item :: items, r)
    | _ => none

/-- The members of an object, at least one, up to its closing brace. -/
def readMembers? :
    Nat → List (String × Json) → List Char → Option (List (String × Json) × List Char)
  | 0, _, _ => none
  | fuel + 1, before, cs => do
    let (name, rest) ← readString? (skip cs)
    match skip rest with
    | ':' :: rest =>
      let (value, rest) ← read? fuel rest
      let members := putMember before name value
      match skip rest with
      | '\x7d' :: r => return (members, r)
      | ',' :: r => readMembers? fuel members r
      | _ => none
    | _ => none

end

/-- The document of a text, when the text is exactly one. -/
def parse? (s : String) : Option Json := do
  let cs := s.toList
  let (j, rest) ← read? (cs.length + 1) cs
  if (skip rest).isEmpty then return j else none

end BoundQuery.Json
