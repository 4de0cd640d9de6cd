import BoundQuery.Statement.Dialect
import BoundQuery.Statement.Projection

/-!
# Conditions on aggregates

Their values are written as literals, never bound.

## Main definitions

* `Having.clause`, the HAVING clause, or nothing
-/

namespace BoundQuery.Having

/-- What follows the label of an aggregate. -/
def rest (d : Dialect) (h : Having) (operand : Operand) : Except CompileError String :=
  match h.condition.predicate, operand with
  | .between, .range min max => do
    let min ← d.literal min
    let max ← d.literal max
    return "BETWEEN " ++ min ++ " AND " ++ max
  | predicate, .list vs =>
    if predicate.isMembership then do
      let literals ← (vs.filter fun v => !v.isNull).mapM d.literal
      if literals.isEmpty then throw (.syntaxFault (.havingEmptyList predicate h.label))
      return predicate.sql ++ " (" ++ Text.joinWith ", " literals ++ ")"
    else .error (.syntaxFault (.havingUnsupported predicate h.label))
  | predicate, .value v =>
    if predicate.isComparison || predicate = .like || predicate = .notLike then do
      let literal ← d.literal v
      return predicate.sql ++ " " ++ literal
    else .error (.syntaxFault (.havingUnsupported predicate h.label))
  | predicate, _ => .error (.syntaxFault (.havingUnsupported predicate h.label))

/-- A condition on an aggregate; an absent operand gives nothing. -/
def body (d : Dialect) (h : Having) : Except CompileError (Option String) :=
  match h.condition.operand with
  | none => .ok none
  | some operand =>
    if operand.isAbsent then .ok none
    else do
      let rest ← h.rest d operand
      return some (h.label ++ " " ++ rest)

/-- The conditions that say something, each with its conjunction. -/
def terms (d : Dialect) (hs : List Having) : Except CompileError (List (Conjunction × String)) := do
  let bodies ← hs.mapM (body d)
  return (hs.zip bodies).filterMap fun (h, b) => b.map (h.condition.conjunction.getD .and, ·)

/-- Terms in a row behind HAVING. -/
def lay : List (Conjunction × String) → String
  | [] => ""
  | (_, first) :: others =>
    "HAVING " ++ first ++ String.join (others.map fun (c, b) => " " ++ c.sql ++ " " ++ b)

/-- The HAVING clause, or nothing. -/
def clause (d : Dialect) (hs : List Having) : Except CompileError String :=
  (terms d hs).map lay

end BoundQuery.Having
