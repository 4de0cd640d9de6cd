/-!
# A place in a YAML text

A cursor is the text that is still to be read, with the line and column where it starts. Line breaks
are brought to one form before reading, so that a break is a single character.

## Main definitions

* `Cursor`, a place in the text
* `Cursor.atMark`, a line that starts or ends a document
* `Gap`, the blanks and line breaks between two parts of a text
-/

namespace BoundQuery.Yaml

/-- A line break. -/
def isBreak (c : Char) : Bool :=
  c == '\n' || c.toNat == 0x2028 || c.toNat == 0x2029

/-- A blank within a line. -/
def isSpace (c : Char) : Bool :=
  c == ' ' || c == '\t'

/-- The character that marks the byte order; at the start of a line it counts for nothing. -/
def isByteOrderMark (c : Char) : Bool :=
  c.toNat == 0xFEFF

/-- Do the characters start with a blank or a line break, or are there none? -/
def startsGap : List Char → Bool
  | [] => true
  | c :: _ => isSpace c || isBreak c

/-- One form for the line breaks: carriage returns, with or without a line feed, and next-line
characters become line feeds. -/
def oneBreakForm : List Char → List Char
  | [] => []
  | '\r' :: '\n' :: cs => '\n' :: oneBreakForm cs
  | c :: cs => (if c == '\r' || c.toNat == 0x85 then '\n' else c) :: oneBreakForm cs

/-- The characters that may stand in a text. -/
def isPrintable (c : Char) : Bool :=
  let n := c.toNat
  n == 9 || n == 10 || n == 13 || (0x20 ≤ n && n ≤ 0x7E) || n == 0x85 || (0xA0 ≤ n && n ≤ 0xD7FF) ||
    (0xE000 ≤ n && n ≤ 0xFFFD) || 0x10000 ≤ n

/-- The text still to be read, and where it starts. -/
structure Cursor where
  rest : List Char
  column : Nat
  line : Nat

/-- The start of a text. -/
def Cursor.start (text : List Char) : Cursor :=
  ⟨text, 0, 0⟩

namespace Cursor

/-- The place behind `count` characters of the line. -/
def advance (c : Cursor) (count : Nat) : Cursor :=
  { c with rest := c.rest.drop count, column := c.column + count }

/-- The place behind the blanks of the line. -/
def skipSpaces (c : Cursor) : Cursor :=
  c.advance (c.rest.takeWhile isSpace).length

/-- A mark of three characters at the start of a line, with a gap behind it. -/
def atMark (mark : List Char) (c : Cursor) : Bool :=
  c.column == 0 && mark.isPrefixOf c.rest && startsGap (c.rest.drop 3)

/-- The mark that starts a document. -/
def atStartMark (c : Cursor) : Bool :=
  c.atMark ['-', '-', '-']

/-- The mark that ends a document. -/
def atEndMark (c : Cursor) : Bool :=
  c.atMark ['.', '.', '.']

end Cursor

/-- Blanks and line breaks between two parts of a text. -/
structure Gap where
  /-- The blanks before the first break. -/
  spaces : List Char
  /-- The breaks. -/
  breaks : List Char
  /-- Does a tab stand in the indentation, in a column before the least one allowed? -/
  tabbed : Bool
  /-- The place behind the gap. -/
  next : Cursor

/-- The gap at a place, behind blanks and breaks that were read already, the last one first. -/
def gapFrom (indent : Nat) (column line : Nat) (spaces breaks : List Char) (tabbed : Bool) :
    List Char → Gap
  | [] => ⟨spaces.reverse, breaks.reverse, tabbed, ⟨[], column, line⟩⟩
  | c :: cs =>
    if isBreak c then gapFrom indent 0 (line + 1) spaces (c :: breaks) tabbed cs
    else if isSpace c then
      if breaks.isEmpty then gapFrom indent (column + 1) line (c :: spaces) breaks tabbed cs
      else gapFrom indent (column + 1) line spaces breaks
        (tabbed || (c == '\t' && column < indent)) cs
    else ⟨spaces.reverse, breaks.reverse, tabbed, ⟨c :: cs, column, line⟩⟩

/-- The gap at the cursor, in a text whose lines are indented by `indent` at least. -/
def Cursor.gap (c : Cursor) (indent : Nat) : Gap :=
  gapFrom indent c.column c.line [] [] false c.rest

/-- What a gap counts for inside a scalar: a single line break is a blank, and of several the first
is dropped. -/
def Gap.folded (g : Gap) : List Char :=
  match g.breaks with
  | [] => g.spaces
  | '\n' :: [] => [' ']
  | '\n' :: more => more
  | b :: more => b :: more

end BoundQuery.Yaml
