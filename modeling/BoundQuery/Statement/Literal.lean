import BoundQuery.Error
import BoundQuery.Number.Text
import BoundQuery.Text.Cut

/-!
# SQL literals

Values that are written into the statement instead of being bound. Texts stand in single quotes,
and each style escapes what would end the literal.

## Main definitions

* `LiteralStyle`, how texts and truth values are written
* `LiteralStyle.escape`, `LiteralStyle.quoted`, a text in quotes
* `LiteralStyle.literal`, a value as a literal
* `Literal.isSafe`, the values that need no quotes
-/

namespace BoundQuery

/-- How texts and truth values are written. -/
inductive LiteralStyle where
  /-- A quote is doubled; truth values are words. -/
  | standard
  /-- Quotes and control characters follow a backslash; truth values are digits. -/
  | backslash
  deriving DecidableEq

/-- Numbers in literals never have an exponent, and whole numbers no point; a tie goes away from
zero. -/
def Literal.floatStyle : NumberStyle where
  tie := .away
  positional _ := true
  pointZero := false

/-- Can the value be written without quotes? -/
def Literal.isSafe : Value → Bool
  | .int _ | .bool _ => true
  | .float x => x.isFinite
  | _ => false

namespace LiteralStyle

/-- What takes the place of which character inside quotes, in the order of the replacements: later
ones act on the images of earlier ones, so the backslash comes first. -/
def replacements : LiteralStyle → List (Char × String)
  | .standard => [('\\', "\\\\"), ('\'', "''")]
  | .backslash =>
    [('\\', "\\\\"), ('\'', "\\'"), ('\n', "\\n"), ('\r', "\\r"), ('\t', "\\t"),
      (Char.ofNat 0, "\\0")]

/-- A text as it stands inside quotes: each replacement runs over the whole text. -/
def escape (style : LiteralStyle) (s : String) : String :=
  style.replacements.foldl (fun t r => Text.replaceEach r.1 r.2 t) s

/-- A text in single quotes. -/
def quoted (style : LiteralStyle) (s : String) : String :=
  "'" ++ style.escape s ++ "'"

/-- A truth value. -/
def truth : LiteralStyle → Bool → String
  | .standard, true => "TRUE"
  | .standard, false => "FALSE"
  | .backslash, true => "1"
  | .backslash, false => "0"

/-- A value as a literal; only numbers that are not finite have none. -/
def literal (style : LiteralStyle) : Value → Except CompileError String
  | .null | .json .null => .ok "NULL"
  | .bool b => .ok (style.truth b)
  | .int i => .ok (Json.intText i.toInt)
  | .float (.finite s m e) => .ok (Literal.floatStyle.write s m e)
  | .float x => .error (.syntaxFault (.nonFiniteLiteral x))
  | .constant name => .ok (style.quoted name)
  | .moment m => .ok (style.quoted m.spacedText)
  | .date d => .ok (style.quoted d.text)
  | .text s => .ok (style.quoted s)
  | .json j => .ok (style.quoted j.compact)

end LiteralStyle

end BoundQuery
