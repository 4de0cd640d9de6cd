import BoundQuery.Statement.Fragment
import BoundQuery.Statement.Literal
import BoundQuery.Text.Blank

/-!
# Dialects

What differs between SQL vendors: literals and index hints.

## Main definitions

* `Dialect`, with its names
* `Dialect.memberList`, the list behind IN
* `Dialect.indexHint`, the hint behind the source, if the vendor has one
-/

namespace BoundQuery

/-- An SQL vendor. -/
inductive Dialect where
  | mysql
  | clickhouse
  deriving DecidableEq, Inhabited

namespace Dialect

/-- The name in settings. -/
def name : Dialect → String
  | .mysql => "mysql"
  | .clickhouse => "clickhouse"

/-- The dialect of exactly that name. -/
def ofName? (s : String) : Option Dialect :=
  [mysql, clickhouse].find? fun d => d.name == s

/-- The dialect of a name in any case, with blanks around it. -/
def read? (s : String) : Option Dialect :=
  ofName? (Text.lower (Text.trim s))

/-- The message for a name of no dialect. -/
def unknownMessage (s : String) : String :=
  "Unknown SQL dialect: '" ++ s ++ "' (supported: mysql, clickhouse)"

/-- How literals are written. -/
def style : Dialect → LiteralStyle
  | .mysql => .standard
  | .clickhouse => .backslash

/-- A value as a literal. -/
def literal (d : Dialect) (v : Value) : Except CompileError String :=
  d.style.literal v

/-- A member of a list: numbers and truth values are written out, all else is bound. -/
def member (d : Dialect) (v : Value) : Except CompileError Piece :=
  if Literal.isSafe v then (d.literal v).map Piece.text else .ok (.bound v)

/-- The list behind IN, without its nulls. -/
def memberList (d : Dialect) (vs : List Value) : Except CompileError Fragment := do
  let pieces ← (vs.filter fun v => !v.isNull).mapM d.member
  if pieces.isEmpty then throw (.syntaxFault .emptyList)
  return .text "(" :: Fragment.joined ", " (pieces.map fun p => [p]) ++ [.text ")"]

/-- The hint behind the source that asks for an index, if the vendor has one. -/
def indexHint : Dialect → String → Attempt (Option String)
  | .mysql, index => pure (some ("FORCE INDEX(" ++ index ++ ")"))
  | .clickhouse, index => do
    Attempt.warn (.indexHintIgnored index)
    return none

end Dialect

end BoundQuery
