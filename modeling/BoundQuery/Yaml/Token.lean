import BoundQuery.Document.Basic
import BoundQuery.Yaml.Scalar

/-!
# Tokens of a YAML text

A text is cut into scalars, indicators and the marks of documents. The indentation of the lines is
turned into tokens that open and close blocks. Whether a scalar or a collection in brackets is a key
shows only when its colon is met: until then it is a candidate, and the token for the key is put in
front of it afterwards. A candidate stays on its line and has 1024 characters at most.

Anchors, tags and block scalars are refused.

## Main definitions

* `Token`, the tokens
* `Scan`, the tokens of a part of the text, and what the rest of them depends on
* `Token.scan?`, the tokens of a text
-/

namespace BoundQuery.Yaml

/-- A part of a text. -/
inductive Token where
  | scalar (d : Document)
  /-- The marks of documents. -/
  | documentStart
  | documentEnd
  /-- The version of the format. -/
  | version (major minor : Nat)
  /-- The start of a list in block form, of a map, and the end of either. -/
  | listStart
  | mapStart
  | blockEnd
  /-- The indicators: a dash, a question mark or its place, a colon, a comma, and brackets. -/
  | dash
  | key
  | colon
  | comma
  | openBracket
  | closeBracket
  | openBrace
  | closeBrace

/-- A node that is a key if a colon follows it. -/
structure Candidate where
  /-- Has a colon to follow? -/
  required : Bool
  /-- How many tokens stand before it. -/
  position : Nat
  /-- Where it starts. -/
  column : Nat
  line : Nat

/-- Is the candidate too far behind to be a key? -/
def Candidate.isStale (k : Candidate) (c : Cursor) : Bool :=
  k.line < c.line || k.column + 1024 < c.column

/-- The candidate, if it may still be a key. It is an error if it has to be one. -/
def Candidate.fresh? (c : Cursor) : Option Candidate → Option (Option Candidate)
  | none => some none
  | some k => if k.isStale c then (if k.required then none else some none) else some (some k)

/-- The tokens of a part of the text, and what the rest of them depends on. -/
structure Scan where
  /-- The rest of the text. -/
  cursor : Cursor
  tokens : Array Token
  /-- The columns of the open blocks, the innermost first. -/
  indents : List Nat
  /-- May a key start here? -/
  keyAllowed : Bool
  /-- The node that may turn out to be a key. -/
  candidate : Option Candidate
  /-- The candidates outside each of the open brackets, the innermost first. -/
  outer : List (Option Candidate)

namespace Scan

/-- The start of a text. -/
def start (text : List Char) : Scan :=
  ⟨Cursor.start text, #[], [], true, none, []⟩

/-- Is the place between brackets? -/
def inFlow (s : Scan) : Bool :=
  !s.outer.isEmpty

/-- A token of `count` characters. -/
def emit (s : Scan) (t : Token) (count : Nat) : Scan :=
  { s with tokens := s.tokens.push t, cursor := s.cursor.advance count }

/-! ### Gaps -/

/-- Skip blanks, line breaks and comments from a place; `comment` says whether the place is inside a
comment. Outside brackets a new line allows a key, and where a key is allowed no tab is skipped. -/
def skipFrom (flow : Bool) (keyAllowed comment : Bool) (column line : Nat) :
    List Char → Bool × Cursor
  | [] => (keyAllowed, ⟨[], column, line⟩)
  | c :: cs =>
    if isBreak c then skipFrom flow (keyAllowed || !flow) false 0 (line + 1) cs
    else if comment || c == '#' then skipFrom flow keyAllowed true (column + 1) line cs
    else if c == ' ' || (c == '\t' && (flow || !keyAllowed)) ||
        (column == 0 && isByteOrderMark c) then
      skipFrom flow keyAllowed false (column + 1) line cs
    else (keyAllowed, ⟨c :: cs, column, line⟩)

/-- The place of the next token. -/
def skipGap (s : Scan) : Scan :=
  let (keyAllowed, cursor) :=
    skipFrom s.inFlow s.keyAllowed false s.cursor.column s.cursor.line s.cursor.rest
  { s with keyAllowed, cursor }

/-! ### Candidates -/

/-- Give up the candidates that are too far behind. -/
def dropStale? (s : Scan) : Option Scan := do
  let candidate ← Candidate.fresh? s.cursor s.candidate
  let outer ← s.outer.mapM (Candidate.fresh? s.cursor)
  return { s with candidate, outer }

/-- Give up the candidate. -/
def dropCandidate? (s : Scan) : Option Scan :=
  if s.candidate.any (·.required) then none else some { s with candidate := none }

/-- Take the node that starts here for a candidate, where a key is allowed. Behind it no key is
allowed. In the column of the innermost block, it has to be a key. -/
def startNode? (s : Scan) : Option Scan := do
  if !s.keyAllowed then return s
  let s ← s.dropCandidate?
  return { s with
    keyAllowed := false
    candidate := some {
      required := !s.inFlow && s.indents.head? == some s.cursor.column
      position := s.tokens.size
      column := s.cursor.column
      line := s.cursor.line } }

/-! ### Blocks -/

/-- Open a block in a column, unless it is open already. Its token goes to the given position. -/
def openBlock (s : Scan) (column position : Nat) (t : Token) : Scan :=
  if s.inFlow || s.indents.head?.any (column ≤ ·) then s
  else { s with
    indents := column :: s.indents
    tokens := s.tokens.insertIdxIfInBounds position t }

/-- Close the innermost `count` blocks. -/
def closeBlocks (s : Scan) (count : Nat) : Scan :=
  { s with
    indents := s.indents.drop count
    tokens := s.tokens ++ Array.replicate count Token.blockEnd }

/-- Close the blocks that are indented more than the place. -/
def closeInner (s : Scan) : Scan :=
  if s.inFlow then s else s.closeBlocks (s.indents.takeWhile (s.cursor.column < ·)).length

/-- Close all blocks. -/
def closeAll (s : Scan) : Scan :=
  if s.inFlow then s else s.closeBlocks s.indents.length

/-! ### Tokens -/

/-- The mark of a document. -/
def mark? (s : Scan) (t : Token) : Option Scan := do
  let s ← s.closeAll.dropCandidate?
  return { s with keyAllowed := false }.emit t 3

/-- An opening bracket. -/
def opening? (s : Scan) (t : Token) : Option Scan := do
  let s ← s.startNode?
  return { s with keyAllowed := true, outer := s.candidate :: s.outer, candidate := none }.emit t 1

/-- A closing bracket. -/
def closing? (s : Scan) (t : Token) : Option Scan := do
  let s ← s.dropCandidate?
  return { s with
    keyAllowed := false
    outer := s.outer.tail
    candidate := s.outer.head?.join }.emit t 1

/-- A comma. -/
def comma? (s : Scan) : Option Scan := do
  let s ← s.dropCandidate?
  return { s with keyAllowed := true }.emit .comma 1

/-- The dash of a list item. -/
def dash? (s : Scan) : Option Scan := do
  if !s.inFlow && !s.keyAllowed then none
  let s ← (s.openBlock s.cursor.column s.tokens.size .listStart).dropCandidate?
  return { s with keyAllowed := true }.emit .dash 1

/-- The question mark of a key. -/
def key? (s : Scan) : Option Scan := do
  if !s.inFlow && !s.keyAllowed then none
  let s ← (s.openBlock s.cursor.column s.tokens.size .mapStart).dropCandidate?
  return { s with keyAllowed := !s.inFlow }.emit .key 1

/-- A colon. The candidate before it is a key. -/
def colon? (s : Scan) : Option Scan := do
  match s.candidate with
  | some k =>
    let s := { s with
      tokens := s.tokens.insertIdxIfInBounds k.position Token.key
      keyAllowed := false
      candidate := none }
    return (s.openBlock k.column k.position .mapStart).emit .colon 1
  | none =>
    if !s.inFlow && !s.keyAllowed then none
    let s := s.openBlock s.cursor.column s.tokens.size .mapStart
    return { s with keyAllowed := !s.inFlow }.emit .colon 1

/-- A scalar that was read from here on. A line break behind it allows a key. -/
def scalar? (s : Scan) (node : String → Document) (read? : Cursor → Option Reading) :
    Option Scan := do
  let s ← s.startNode?
  let r ← read? s.cursor
  return { s with
    cursor := r.next
    keyAllowed := r.broken
    tokens := s.tokens.push (.scalar (node (String.ofList r.text))) }

/-! ### Directives -/

/-- A number of nine digits at most. -/
def number? (c : Cursor) : Option (Nat × Cursor) :=
  let digits := c.rest.takeWhile Char.isDigit
  if digits.isEmpty || 9 < digits.length then none
  else some (digits.foldl (fun n d => 10 * n + (d.toNat - '0'.toNat)) 0, c.advance digits.length)

/-- The directive that gives the version, which ends with its line. -/
def directive? (s : Scan) : Option Scan := do
  let s ← s.closeAll.dropCandidate?
  if !"%YAML".toList.isPrefixOf s.cursor.rest then none
  let name := s.cursor.advance 5
  if !startsGap name.rest then none
  let (major, point) ← number? name.skipSpaces
  if point.rest.head? != some '.' then none
  let (minor, behind) ← number? (point.advance 1)
  let behind := behind.skipSpaces
  let comment := if behind.rest.head? == some '#' then
      behind.rest.takeWhile (fun c => !isBreak c) else []
  let last := behind.advance comment.length
  if last.rest.head?.any (fun c => !isBreak c) then none
  return { s with
    cursor := last
    keyAllowed := false
    tokens := s.tokens.push (.version major minor) }

/-! ### Scanning -/

/-- The token at a place, which starts with the character `c`. -/
def token? (s : Scan) (c : Char) (behind : List Char) : Option Scan :=
  let flow := s.inFlow
  let indicates := flow || startsGap behind
  if s.cursor.column == 0 && c == '%' then s.directive?
  else if s.cursor.atStartMark then s.mark? .documentStart
  else if s.cursor.atEndMark then s.mark? .documentEnd
  else match c with
    | '[' => s.opening? .openBracket
    | ']' => s.closing? .closeBracket
    | '\x7b' => s.opening? .openBrace
    | '\x7d' => s.closing? .closeBrace
    | ',' => s.comma?
    | '\'' => s.scalar? .text (readQuoted? false)
    | '"' => s.scalar? .text (readQuoted? true)
    | _ =>
      if c == '-' && startsGap behind then s.dash?
      else if c == '?' && indicates then s.key?
      else if c == ':' && indicates then s.colon?
      else if startsPlain flow s.cursor.rest then
        s.scalar? .plain (readPlain? flow (s.indents.head?.elim 0 (· + 1)))
      else none

/-- The tokens of the rest of the text. -/
def run? : Nat → Scan → Option (List Token)
  | 0, _ => none
  | fuel + 1, s => do
    let s ← s.skipGap.dropStale?
    let s := s.closeInner
    match s.cursor.rest with
    | c :: behind => run? fuel (← s.token? c behind)
    | [] => return (← s.closeAll.dropCandidate?).tokens.toList

end Scan

/-- The tokens of a text. -/
def Token.scan? (text : String) : Option (List Token) :=
  let cs := text.toList
  if cs.all isPrintable then (Scan.start (oneBreakForm cs)).run? (cs.length + 1) else none

end BoundQuery.Yaml
