import BoundQuery.Text.LetterTable

/-!
# Letters, numbers and identifiers

## Main definitions

* `isLetter`, `isNumeral`, the Unicode classes of letters and numbers
* `isIdentifier`, the shape of a logical name: a letter or underscore, then letters, numbers and
  underscores
-/

namespace BoundQuery.Text

/-- Is `n` in one of the ascending ranges? -/
def inRanges (n : Nat) : List (Nat × Nat) → Bool
  | [] => false
  | (lo, hi) :: rest => if n < lo then false else n ≤ hi || inRanges n rest

/-- Unicode's `Alphabetic` property. -/
def isLetter (c : Char) : Bool :=
  inRanges c.toNat alphabeticRanges

/-- The number categories of Unicode: digits, letter numbers and other numbers. -/
def isNumeral (c : Char) : Bool :=
  inRanges c.toNat numericRanges

/-- A letter or a number. -/
def isLetterOrNumeral (c : Char) : Bool :=
  isLetter c || isNumeral c

/-- Does the character open an identifier? -/
def opensIdentifier (c : Char) : Bool :=
  isLetter c || c == '_'

/-- Does the character continue an identifier? -/
def continuesIdentifier (c : Char) : Bool :=
  isLetterOrNumeral c || c == '_'

/-- The shape of an identifier, on characters. -/
def isIdentifierChars : List Char → Bool
  | [] => false
  | c :: cs => opensIdentifier c && cs.all continuesIdentifier

/-- The shape of an identifier. -/
def isIdentifier (s : String) : Bool :=
  isIdentifierChars s.toList

end BoundQuery.Text
