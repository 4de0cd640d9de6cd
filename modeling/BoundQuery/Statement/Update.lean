import BoundQuery.Criteria
import BoundQuery.Scope.Pruned
import BoundQuery.Statement.Where

/-!
# Updates

An update compiles to an UPDATE statement: the values of its assignments come before those of its
conditions. Empty and default values are not assigned, and an update that assigns nothing is
refused.

## Main definitions

* `Assignment.stored`, a value as its column stores it
* `UpdateStatement`, a compiled update by its clauses
* `Update.compile`, the statement of an update
-/

namespace BoundQuery

namespace Assignment

/-- A value as its column stores it: JSON columns take text, and temporal columns take a number for
milliseconds since the epoch. -/
def stored (e : Entity) (name : String) (p : Property) (v : Value) : Except CompileError Value :=
  if p.json then .ok (.text v.contentText)
  else match v with
    | .int millis =>
      if p.type.isTemporal then
        match Moment.ofEpochMillis? millis.toInt with
        | some m => .ok (if p.type = .date then .date m.date else .moment m)
        | none => .error (.syntaxFault (.millisOutOfRange e.name name millis.toInt))
      else .ok v
    | _ => .ok v

/-- An assignment script with its values. -/
def script (scope : Scope) (key : String) : Option Operand → Except CompileError Fragment
  | some (.range _ _) => .error (.syntaxFault (.scriptRange key))
  | some (.list vs) => do return [.script (← scope.script key) vs]
  | some (.value v) => do return [.script (← scope.script key) [v]]
  | none => do return [.script (← scope.script key) []]

/-- The value to assign. A JSON column also takes a list. -/
def value (e : Entity) (key : String) : Option Operand → Except CompileError Value
  | none => .ok .null
  | some (.value v) => .ok v
  | some (.list vs) =>
    if ((e.property? key).map Property.json).getD false then
      .ok (.json (.arr (vs.map Value.content)))
    else .error (.syntaxFault (.assignmentNeedsValue key))
  | some (.range _ _) => .error (.syntaxFault (.assignmentNeedsValue key))

/-- The assignment of a value to a property; an empty or default value gives none. -/
def ofProperty (e : Entity) (key : String) (v : Value) : Except CompileError (Option Fragment) :=
  if v.isNullOrEmpty || e.isDefault key v then .ok none
  else match e.property? key with
    | none => .error (.unmappedProperty e.name key)
    | some p => do
      let v ← stored e key p v
      return some [.text p.column, .text " = ", .bound v]

/-- The assignment of an entry, if it gives one. A key with a placeholder is a script that binds
the one value. -/
def ofEntry (scope : Scope) (c : Condition) : Except CompileError (Option Fragment) :=
  let key := Text.trim c.key
  if key.isEmpty then .ok none
  else if c.predicate = .script then (script scope key c.operand).map some
  else do
    let v ← value scope.entity key c.operand
    if Text.hasChar '?' key then
      return some [.script (← scope.script key) [v]]
    else ofProperty scope.entity key v

end Assignment

/-- A compiled update. -/
structure UpdateStatement where
  table : String
  assignments : List Fragment
  /-- The conditions, each led by its conjunction. -/
  filter : Fragment

namespace UpdateStatement

/-- The text without a leading word and the blank behind it, in any case. -/
def afterWord? (word : List Char) (text : List Char) : Option (List Char) :=
  if (text.take word.length).map Char.toUpper = word then some (text.drop word.length) else none

/-- Conditions as a WHERE clause: WHERE takes the place of the leading conjunction. -/
def whereClause (conditions : String) : String :=
  let text := (Text.trim conditions).toList
  if text.isEmpty then ""
  else
    let body := (afterWord? "AND ".toList text <|> afterWord? "OR ".toList text).getD text
    "WHERE " ++ String.ofList (Text.dropBlanks body)

/-- The WHERE clause, empty when there is none. -/
def filterClause (u : UpdateStatement) : String :=
  whereClause (Fragment.sql u.filter)

/-- The UPDATE statement. -/
def sql (u : UpdateStatement) : String :=
  "UPDATE " ++ u.table ++ " SET " ++ Fragment.sql (Fragment.joined ", " u.assignments) ++
    (if u.filterClause.isEmpty then "" else " " ++ u.filterClause)

/-- The values in the order of the placeholders. -/
def values (u : UpdateStatement) : List Value :=
  u.assignments.flatMap Fragment.values ++ Fragment.values u.filter

end UpdateStatement

/-- The statement of an update. -/
def Update.compile (u : Update) (catalog : Catalog) (d : Dialect) : Attempt UpdateStatement := do
  let some entity := catalog.lookup? u.entity
    | Attempt.ofExcept (.error (.unresolvedEntity u.entity))
  let scope : Scope := ⟨catalog, entity, .empty⟩
  let assignments ← (u.assignments.mapM (Assignment.ofEntry scope) :
    Except CompileError (List (Option Fragment)))
  let filter ← Filter.compile ⟨scope, d⟩ .fragment (scope.pruned u.conditions)
  let statement : UpdateStatement := ⟨entity.table, assignments.filterMap id, filter⟩
  if statement.assignments.isEmpty then Attempt.ofExcept (.error (.emptyUpdate statement.sql))
  else if statement.filterClause.isEmpty then do
    Attempt.warn (.updateWithoutWhere entity.name statement.sql)
    return statement
  else return statement

end BoundQuery
