import BoundQuery.Json.Basic
import BoundQuery.Number.Text
import BoundQuery.Text.Cut

/-!
# Writing JSON

## Main definitions

* `Json.floatStyle`, how numbers are written
* `Json.quoted`, a string in quotes
* `Json.compact`, a document without any blanks
* `Json.pretty`, a document over several lines, each level two blanks further in
-/

namespace BoundQuery.Json

/-- Floating-point numbers are positional from `1e-5` up to `1e16`, always show that they are not
whole by a point or an exponent, and break a tie toward the even digit. -/
def floatStyle : NumberStyle where
  tie := .toEven
  positional place := -5 ≤ place && place < 16
  pointZero := true

/-- The lower-case hexadecimal digit of a number below sixteen. -/
def hexDigit (n : Nat) : Char :=
  if n < 10 then Char.ofNat ('0'.toNat + n) else Char.ofNat ('a'.toNat + n - 10)

/-- A character inside quotes. -/
def escaped (c : Char) : List Char :=
  if c = '"' then ['\\', '"']
  else if c = '\\' then ['\\', '\\']
  else if c.toNat = 8 then ['\\', 'b']
  else if c.toNat = 12 then ['\\', 'f']
  else if c = '\n' then ['\\', 'n']
  else if c = '\r' then ['\\', 'r']
  else if c = '\t' then ['\\', 't']
  else if c.toNat < 32 then ['\\', 'u', '0', '0', hexDigit (c.toNat / 16), hexDigit (c.toNat % 16)]
  else [c]

/-- A string in quotes. -/
def quoted (s : String) : String :=
  String.ofList ('"' :: s.toList.flatMap escaped ++ ['"'])

/-- A floating-point number; one that is not finite is written as null. -/
def floatText : Binary64 → String
  | .finite s m e => floatStyle.write s m e
  | _ => "null"

/-- An integer in decimal. -/
def intText (i : Int) : String :=
  String.ofList (if i < 0 then '-' :: Nat.toDigits 10 i.natAbs else Nat.toDigits 10 i.natAbs)

mutual

/-- The document without any blanks. -/
def compact : Json → String
  | .null => "null"
  | .bool b => if b then "true" else "false"
  | .int i => intText i
  | .float x => floatText x
  | .str s => quoted s
  | .arr items => "[" ++ Text.joinWith "," (compactItems items) ++ "]"
  | .obj members => "\x7b" ++ Text.joinWith "," (compactMembers members) ++ "\x7d"

/-- Each item without any blanks. -/
def compactItems : List Json → List String
  | [] => []
  | j :: rest => compact j :: compactItems rest

/-- Each member without any blanks. -/
def compactMembers : List (String × Json) → List String
  | [] => []
  | (n, j) :: rest => (quoted n ++ ":" ++ compact j) :: compactMembers rest

end

/-- A line break and the indentation of a level. -/
def lineBreak (level : Nat) : String :=
  "\n" ++ String.ofList (List.replicate (2 * level) ' ')

/-- Texts between brackets, each on a line of its own. -/
def bracketed (opening closing : String) (level : Nat) : List String → String
  | [] => opening ++ closing
  | items =>
    opening ++ lineBreak (level + 1) ++ Text.joinWith ("," ++ lineBreak (level + 1)) items ++
      lineBreak level ++ closing

mutual

/-- The document over several lines, at a level of indentation. -/
def prettyAt (level : Nat) : Json → String
  | .arr items => bracketed "[" "]" level (prettyItems (level + 1) items)
  | .obj members => bracketed "\x7b" "\x7d" level (prettyMembers (level + 1) members)
  | j => compact j

/-- Each item over several lines. -/
def prettyItems (level : Nat) : List Json → List String
  | [] => []
  | j :: rest => prettyAt level j :: prettyItems level rest

/-- Each member over several lines. -/
def prettyMembers (level : Nat) : List (String × Json) → List String
  | [] => []
  | (n, j) :: rest => (quoted n ++ ": " ++ prettyAt level j) :: prettyMembers level rest

end

/-- The document over several lines. -/
def pretty (j : Json) : String :=
  prettyAt 0 j

end BoundQuery.Json
