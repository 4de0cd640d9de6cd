import BoundQuery.Json.Parser
import BoundQuery.Yaml.Cursor

/-!
# Scalars of a YAML text

Scalars stand plain or in quotes, and may run over several lines. A single line break inside a
scalar counts as a blank, and several as one break less.

## Main definitions

* `readPlain?`, a scalar without quotes
* `readQuoted?`, a scalar in single or in double quotes
-/

namespace BoundQuery.Yaml

/-- The indicators that end a plain scalar between brackets. -/
def isFlowIndicator (c : Char) : Bool :=
  c == ',' || c == '[' || c == ']' || c == '\x7b' || c == '\x7d'

/-- The part of a plain scalar up to the next gap, to a colon before a gap, or between brackets to
an indicator. There a colon right before an indicator is an error. -/
def plainPart? (flow : Bool) : List Char → Option (List Char)
  | [] => some []
  | c :: cs =>
    if isSpace c || isBreak c || (c == ':' && startsGap cs) then some []
    else if flow && c == ':' && cs.head?.any (fun d => d == '?' || isFlowIndicator d) then none
    else if flow && isFlowIndicator c then some []
    else (plainPart? flow cs).map (c :: ·)

/-- A scalar as it was read. -/
structure Reading where
  text : List Char
  /-- The place behind the scalar. -/
  next : Cursor
  /-- Was a line break read behind the last character of the scalar? -/
  broken : Bool

/-- The rest of a plain scalar, behind its text so far, the last character first, and the gap that
follows it. It ends before a comment, before a mark, and outside brackets before a line that is
indented less than `indent`. -/
def plainFrom? (flow : Bool) (indent : Nat) :
    Nat → (before : List Char) → Gap → Option Reading
  | 0, _, _ => none
  | fuel + 1, before, gap => do
    let c := gap.next
    let ended : Reading := ⟨before.reverse, c, !gap.breaks.isEmpty⟩
    if c.atStartMark || c.atEndMark || c.rest.head? == some '#' then return ended
    let part ← plainPart? flow c.rest
    if part.isEmpty then return ended
    let before := part.reverse ++ (gap.folded.reverse ++ before)
    let behind := c.advance part.length
    let gap := behind.gap indent
    if gap.tabbed then none
    if gap.spaces.isEmpty && gap.breaks.isEmpty then return ⟨before.reverse, behind, false⟩
    if !flow && gap.next.column < indent then
      return ⟨before.reverse, gap.next, !gap.breaks.isEmpty⟩
    plainFrom? flow indent fuel before gap

/-- The plain scalar at a place. -/
def readPlain? (flow : Bool) (indent : Nat) (c : Cursor) : Option Reading :=
  plainFrom? flow indent (c.rest.length + 1) [] ⟨[], [], false, c⟩

/-- May a plain scalar start here? -/
def startsPlain (flow : Bool) : List Char → Bool
  | [] => false
  | c :: cs =>
    if c == '-' then !startsGap cs
    else if c == '?' || c == ':' then !flow && !startsGap cs
    else !(isSpace c || isBreak c || isFlowIndicator c || "#&*!|>'\"%@`".toList.contains c)

/-- No scalar in quotes runs over the end of the text or over a mark. -/
def endsQuoted (c : Cursor) : Bool :=
  c.rest.isEmpty || c.atStartMark || c.atEndMark

/-- The rest of a scalar in single quotes, behind the opening quote. -/
def readSingle? : Nat → List Char → Cursor → Option (List Char × Cursor)
  | 0, _, _ => none
  | fuel + 1, before, c =>
    if endsQuoted c then none
    else match c.rest with
      | [] => none
      | '\'' :: '\'' :: _ => readSingle? fuel ('\'' :: before) (c.advance 2)
      | '\'' :: _ => some (before.reverse, c.advance 1)
      | d :: _ =>
        if isSpace d || isBreak d then
          let g := c.gap 0
          readSingle? fuel (g.folded.reverse ++ before) g.next
        else readSingle? fuel (d :: before) (c.advance 1)

/-- The character of a code point, when there is one. -/
def charOf? (n : Nat) : Option Char :=
  if n < 0xD800 || (0xDFFF < n && n ≤ 0x10FFFF) then some (Char.ofNat n) else none

/-- A character by its code point in `count` hexadecimal digits. -/
def hexChar? (count : Nat) (cs : List Char) : Option (Char × Nat) := do
  let ds ← (cs.take count).mapM Json.hexValue?
  if ds.length < count then none
  let ch ← charOf? (ds.foldl (fun n d => 16 * n + d) 0)
  return (ch, count + 1)

/-- The character behind a backslash, and how many characters spell it. -/
def escape? : List Char → Option (Char × Nat)
  | [] => none
  | c :: cs =>
    match c with
    | '0' => some (Char.ofNat 0, 1)
    | 'a' => some (Char.ofNat 7, 1)
    | 'b' => some (Char.ofNat 8, 1)
    | 't' | '\t' => some ('\t', 1)
    | 'n' => some ('\n', 1)
    | 'v' => some (Char.ofNat 11, 1)
    | 'f' => some (Char.ofNat 12, 1)
    | 'r' => some ('\r', 1)
    | 'e' => some (Char.ofNat 27, 1)
    | ' ' => some (' ', 1)
    | '"' => some ('"', 1)
    | '/' => some ('/', 1)
    | '\\' => some ('\\', 1)
    | 'N' => some (Char.ofNat 0x85, 1)
    | '_' => some (Char.ofNat 0xA0, 1)
    | 'L' => some (Char.ofNat 0x2028, 1)
    | 'P' => some (Char.ofNat 0x2029, 1)
    | 'x' => hexChar? 2 cs
    | 'u' => hexChar? 4 cs
    | 'U' => hexChar? 8 cs
    | _ => none

/-- The rest of a scalar in double quotes, behind the opening quote. -/
def readDouble? : Nat → List Char → Cursor → Option (List Char × Cursor)
  | 0, _, _ => none
  | fuel + 1, before, c =>
    if endsQuoted c then none
    else match c.rest with
      | [] => none
      | '"' :: _ => some (before.reverse, c.advance 1)
      | '\\' :: d :: ds =>
        if isBreak d then
          let g := gapFrom 0 0 (c.line + 1) [] [d] false ds
          readDouble? fuel ((g.breaks.drop 1).reverse ++ before) g.next
        else do
          let (ch, count) ← escape? (d :: ds)
          readDouble? fuel (ch :: before) (c.advance (count + 1))
      | d :: _ =>
        if isSpace d || isBreak d then
          let g := c.gap 0
          readDouble? fuel (g.folded.reverse ++ before) g.next
        else readDouble? fuel (d :: before) (c.advance 1)

/-- The scalar in quotes at a place, which is the opening quote. -/
def readQuoted? (double : Bool) (c : Cursor) : Option Reading := do
  let fuel := c.rest.length + 1
  let (text, next) ← if double then readDouble? fuel [] (c.advance 1)
    else readSingle? fuel [] (c.advance 1)
  return ⟨text, next, false⟩

end BoundQuery.Yaml
