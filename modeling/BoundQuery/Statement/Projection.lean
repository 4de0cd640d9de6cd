import BoundQuery.Criteria
import BoundQuery.Settings
import BoundQuery.Scope.Basic
import BoundQuery.Statement.Labels

/-!
# Projections

The columns of an explicit projection: distinct keys first, then aggregates, then plain keys.
Dotted columns get generated labels, aggregates labels of their own.

## Main definitions

* `Reduce.label`, the label of an aggregate
* `Projection`, the columns and what other clauses need of them
* `Projection.ofProjected`, the columns of an explicit projection
-/

namespace BoundQuery

namespace Reduce

/-- The name of what is aggregated. -/
def subject (r : Reduce) : String :=
  if Text.trim r.property = "*" then "all" else Text.trim r.property

/-- What the label of the aggregate stands for. -/
def target (r : Reduce) : String :=
  r.subject ++ "_" ++ r.aggregate.suffix

/-- The label of the aggregate: the separator takes the place of dots. -/
def label (r : Reduce) (separator : String) : String :=
  Text.replaceEach '.' separator r.subject ++ "_" ++ r.aggregate.suffix

/-- The aggregated column. -/
def column (r : Reduce) (scope : Scope) : Except CompileError String :=
  if Text.trim r.property = "*" then .ok "*" else scope.key r.property

/-- The call of the aggregate function. -/
def call (r : Reduce) (scope : Scope) : Except CompileError String := do
  let column ← r.column scope
  return r.aggregate.function ++ "(" ++ (if r.aggregate.isDistinct then "DISTINCT " else "") ++
    column ++ ")"

end Reduce

/-- A condition on the aggregate of a label. -/
structure Having where
  label : String
  condition : Condition

/-- The columns of a read. -/
structure Projection where
  columns : List String
  /-- What the COUNT statement counts. -/
  counted : String
  having : List Having
  labels : Labels

namespace Projection

/-- All columns. -/
def all : Projection := ⟨["*"], "COUNT(*)", [], {}⟩

/-- An aggregate among the columns. -/
structure Aggregated where
  column : String
  label : String
  target : String
  having : Option Having

/-- The column of an aggregate. A condition on it excludes a COUNT statement. -/
def aggregated (scope : Scope) (separator : String) (counting : Bool) (r : Reduce) :
    Except CompileError Aggregated := do
  let label := r.label separator
  let call ← r.call scope
  if counting && r.having.isSome then throw (.syntaxFault (.havingBesideCount label))
  return ⟨call ++ " AS " ++ label, label, r.target, r.having.map fun c => ⟨label, c⟩⟩

/-- Keys with their columns. -/
def resolved (scope : Scope) (keys : List String) : Except CompileError (List (String × String)) :=
  keys.mapM fun key => do return (key, ← scope.key key)

/-- The labels with projected keys. -/
def recordKeys (labels : Labels) (pairs : List (String × String)) : Labels :=
  pairs.foldl (fun l p => l.putProperty p.1 p.2) labels

/-- The labels with aggregates. -/
def recordAggregates (labels : Labels) (as : List Aggregated) : Labels :=
  as.foldl (fun l a => l.putExpression a.label a.target) labels

/-- The columns of an explicit projection; `counting` tells whether a COUNT statement stands
beside it. -/
def ofProjected (scope : Scope) (settings : Settings) (counting : Bool) (p : Projected) :
    Except CompileError Projection := do
  if p.isEmpty then throw (.syntaxFault .emptyProjection)
  let distinct ← resolved scope p.distinct
  let aggregates ← p.reduces.mapM (aggregated scope settings.separator counting)
  let keys ← resolved scope p.resultKeys
  let labels := recordKeys (recordKeys { aliases := scope.aliases } distinct) keys
  let (distinctColumns, labels) := labels.columns settings.stem (distinct.map Prod.snd)
  let labels := recordAggregates labels aggregates
  let (keyColumns, labels) := labels.columns settings.stem (keys.map Prod.snd)
  let distinctPart :=
    if distinct.isEmpty then [] else ["DISTINCT " ++ Text.joinWith ", " distinctColumns]
  let counted :=
    if distinct.isEmpty then "COUNT(*)"
    else "COUNT(DISTINCT " ++ Text.joinWith ", " (distinct.map Prod.snd) ++ ")"
  return {
    columns := distinctPart ++ aggregates.map Aggregated.column ++ keyColumns
    counted
    having := aggregates.filterMap Aggregated.having
    labels }

end Projection

end BoundQuery
