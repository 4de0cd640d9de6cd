import BoundQuery.Scope.Basic
import BoundQuery.Statement.Dialect

/-!
# Conditions as SQL

Each condition gives a body or nothing, whatever its place. Its place decides only which word leads
it: WHERE, its conjunction, or none.

## Main definitions

* `Term`, a condition that gave a body
* `Filter.terms`, the terms of conditions
* `Position`, the place of the first term
* `Position.lay`, terms in a row
* `Filter.render`, the two together
-/

namespace BoundQuery

/-- A condition that gave a body, with its conjunction. -/
structure Term where
  conjunction : Option Conjunction
  body : Fragment

/-- The place of the first of several terms. -/
inductive Position where
  | whereFirst
  | whereNext
  | groupFirst
  | groupNext
  | fragment
  deriving DecidableEq

namespace Position

/-- The word of a conjunction, when there is one. -/
def joining : Option Conjunction → Fragment
  | some c => [.text c.sql, .text " "]
  | none => []

/-- What leads the first term. -/
def lead : Position → Option Conjunction → Fragment
  | .whereFirst, _ => [.text "WHERE "]
  | .groupFirst, _ => []
  | _, c => joining c

/-- Terms in a row; all but the first are led by their conjunctions. -/
def lay (p : Position) : List Term → Fragment
  | [] => []
  | t :: ts =>
    p.lead t.conjunction ++ t.body ++
      ts.flatMap fun u => .text " " :: joining u.conjunction ++ u.body

end Position

/-- A failure among conditions, with the values bound before it. -/
structure Halt where
  error : CompileError
  bound : List Value

/-- What conditions are rendered with. -/
structure Filter where
  scope : Scope
  dialect : Dialect

namespace Filter

/-- The expression between the marks of a text of the form `#...#`. -/
def inline? : Value → Option String
  | .text s =>
    match s.toList with
    | '#' :: rest =>
      match rest.reverse with
      | '#' :: inner => some (String.ofList inner.reverse)
      | _ => none
    | _ => none
  | _ => none

/-- The script of a script condition, with the values it binds. -/
def scriptBody (f : Filter) (c : Condition) : Except CompileError (Option Fragment) := do
  let script ← f.scope.script c.key
  if script.isEmpty then return none
  let vs := match c.operand with
    | some (.list vs) => vs
    | some (.value v) => if v.isNull then [] else [v]
    | some (.range min max) => [min, max]
    | none => []
  return some [.script script vs]

/-- The expression that a null check checks: its text operand, or its key. -/
def checked (c : Condition) : String :=
  match c.scalar? with
  | some (.text s) => if Text.isBlankText s then c.key else s
  | _ => c.key

/-- A null check. -/
def nullCheckBody (f : Filter) (c : Condition) : Except CompileError (Option Fragment) := do
  if Text.isBlankText (checked c) then return none
  let expression ← f.scope.script (checked c)
  return some [.text expression, .text " ", .text c.predicate.sql]

/-- The values of a membership condition. -/
def members (c : Condition) : Operand → Except CompileError (List Value)
  | .list vs => .ok vs
  | .value v => .ok [v]
  | .range _ _ => .error (.syntaxFault (.needsList c.predicate c.key))

/-- What follows the resolved key of a condition: its operator and operand. -/
def rest (f : Filter) (c : Condition) (operand : Operand) : Except CompileError Fragment :=
  match c.predicate with
  | .oneOf | .noneOf => do
    let list ← f.dialect.memberList (← members c operand)
    return .text c.predicate.sql :: .text " " :: list
  | .between =>
    match operand with
    | .range min max => .ok [.text "BETWEEN ", .bound min, .text " AND ", .bound max]
    | _ => .error (.syntaxFault (.needsRange c.key))
  | _ =>
    match operand with
    | .value v =>
      match inline? v with
      | some expression => do
        let resolved ← f.scope.script expression
        return [.text c.predicate.sql, .text " ", .text resolved]
      | none => .ok [.text c.predicate.sql, .text " ", .bound v]
    | _ => .error (.syntaxFault (.needsValue c.predicate c.key))

/-- A predicate with an operand. An absent operand or a blank key gives nothing. -/
def predicateBody (f : Filter) (c : Condition) : Except CompileError (Option Fragment) :=
  match c.operand with
  | none => .ok none
  | some operand =>
    if operand.isAbsent || Text.isBlankText c.key then .ok none
    else do
      let key ← f.scope.script c.key
      let rest ← f.rest c operand
      return some (.text key :: .text " " :: rest)

/-- The body of a condition without children. -/
def leafBody (f : Filter) (c : Condition) : Except CompileError (Option Fragment) :=
  match c.predicate with
  | .group | .groupBegin | .groupEnd => .ok none
  | .script => f.scriptBody c
  | .isNull | .isNotNull => f.nullCheckBody c
  | _ => f.predicateBody c

/-- The terms of a group in parentheses; an empty group gives nothing. -/
def enclosed : List Term → Option Fragment
  | [] => none
  | ts => some (.text "(" :: Position.groupFirst.lay ts ++ [.text ")"])

mutual

/-- The body of a condition. -/
def body (f : Filter) : Condition → Except Halt (Option Fragment)
  | ⟨key, operand, predicate, conjunction, []⟩ =>
    (f.leafBody ⟨key, operand, predicate, conjunction, []⟩).mapError (⟨·, []⟩)
  | ⟨_, _, _, _, c :: cs⟩ => (f.terms (c :: cs)).map enclosed

/-- The terms of conditions in order. A failure keeps the values bound before it. -/
def terms (f : Filter) : List Condition → Except Halt (List Term)
  | [] => .ok []
  | c :: cs =>
    match f.body c with
    | .error h => .error h
    | .ok none => f.terms cs
    | .ok (some b) =>
      match f.terms cs with
      | .error h => .error ⟨h.error, Fragment.values b ++ h.bound⟩
      | .ok ts => .ok (⟨c.conjunction, b⟩ :: ts)

end

/-- Conditions at a position. -/
def render (f : Filter) (p : Position) (cs : List Condition) : Except Halt Fragment :=
  (f.terms cs).map p.lay

/-- Conditions at a position, where only the cause of a failure matters. -/
def compile (f : Filter) (p : Position) (cs : List Condition) : Except CompileError Fragment :=
  (f.render p cs).mapError Halt.error

end Filter

end BoundQuery
