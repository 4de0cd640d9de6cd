import BoundQuery.Condition.Basic

/-!
# Criteria and updates

Criteria describe a read of one entity: its source, conditions, order, and optionally an explicit
projection. An update describes assignments to the rows that meet its conditions.

## Main definitions

* `Criteria`, with `Projected` for its projection, `SortKey` and `Reduce` for its parts
* `Update`
-/

namespace BoundQuery

/-- The direction of a sort. -/
inductive Direction where
  | ascending
  | descending
  deriving DecidableEq

/-- The name in documents and in SQL. -/
def Direction.name : Direction → String
  | .ascending => "ASC"
  | .descending => "DESC"

/-- The direction of a name. -/
def Direction.ofName? (s : String) : Option Direction :=
  [Direction.ascending, .descending].find? fun d => d.name == s

/-- A sort key. -/
structure SortKey where
  key : String
  direction : Option Direction

/-- The direction that applies: descending unless one is given. -/
def SortKey.effective (s : SortKey) : Direction :=
  s.direction.getD .descending

/-- The kinds of aggregates. -/
inductive Aggregate where
  | count
  | countDistinct
  | sum
  | sumDistinct
  | avg
  | max
  | min
  | groupConcat
  | groupConcatDistinct
  deriving DecidableEq

namespace Aggregate

/-- All kinds. -/
def all : List Aggregate :=
  [.count, .countDistinct, .sum, .sumDistinct, .avg, .max, .min, .groupConcat,
    .groupConcatDistinct]

/-- The name in documents. -/
def name : Aggregate → String
  | .count => "COUNT"
  | .countDistinct => "COUNT_DISTINCT"
  | .sum => "SUM"
  | .sumDistinct => "SUM_DISTINCT"
  | .avg => "AVG"
  | .max => "MAX"
  | .min => "MIN"
  | .groupConcat => "GROUP_CONCAT"
  | .groupConcatDistinct => "GROUP_CONCAT_DISTINCT"

/-- The kind of a name. -/
def ofName? (s : String) : Option Aggregate :=
  all.find? fun a => a.name == s

/-- The SQL function. -/
def function : Aggregate → String
  | .count | .countDistinct => "COUNT"
  | .sum | .sumDistinct => "SUM"
  | .avg => "AVG"
  | .max => "MAX"
  | .min => "MIN"
  | .groupConcat | .groupConcatDistinct => "GROUP_CONCAT"

/-- Does the function run over distinct values? -/
def isDistinct : Aggregate → Bool
  | .countDistinct | .sumDistinct | .groupConcatDistinct => true
  | _ => false

/-- The end of the aggregate's label. -/
def suffix : Aggregate → String
  | .count => "count"
  | .countDistinct => "count_distinct"
  | .sum => "sum"
  | .sumDistinct => "sum_distinct"
  | .avg => "avg"
  | .max => "max"
  | .min => "min"
  | .groupConcat => "group_concat"
  | .groupConcatDistinct => "group_concat_distinct"

end Aggregate

/-- An aggregate over a property, with an optional condition on its result. -/
structure Reduce where
  property : String
  aggregate : Aggregate
  having : Option Condition

/-- An explicit projection. -/
structure Projected where
  resultKeys : List String := []
  distinct : List String := []
  reduces : List Reduce := []

/-- Nothing to project. -/
def Projected.isEmpty (p : Projected) : Bool :=
  p.resultKeys.isEmpty && p.distinct.isEmpty && p.reduces.isEmpty

/-- A read of one entity. -/
structure Criteria where
  entity : String
  /-- Tables and joins, with their aliases; the entity itself when absent. -/
  source : Option String := none
  conditions : List Condition := []
  sorts : List SortKey := []
  /-- Keys between commas; only for reads with a projection. -/
  groupBy : Option String := none
  forceIndex : Option String := none
  /-- Leave out the COUNT statement. -/
  ignoresTotal : Bool := false
  /-- The source brings its own order. -/
  fixedSort : Bool := false
  projected : Option Projected := none

namespace Criteria

/-- Join a condition as it is. -/
def filter (c : Criteria) (condition : Condition) : Criteria :=
  { c with conditions := c.conditions ++ [condition] }

/-- Join a condition by AND. -/
def and (c : Criteria) (condition : Condition) : Criteria :=
  c.filter (condition.joinedBy (some .and))

/-- Join a condition by OR. -/
def or (c : Criteria) (condition : Condition) : Criteria :=
  c.filter (condition.joinedBy (some .or))

/-- Add a sort key. -/
def sortBy (c : Criteria) (key : String) (direction : Direction) : Criteria :=
  { c with sorts := c.sorts ++ [⟨key, some direction⟩] }

/-- Change the projection, starting from an empty one. -/
def project (c : Criteria) (change : Projected → Projected) : Criteria :=
  { c with projected := some (change (c.projected.getD {})) }

/-- Project a key. -/
def resultKey (c : Criteria) (key : String) : Criteria :=
  c.project fun p => { p with resultKeys := p.resultKeys ++ [key] }

/-- Project distinct keys. -/
def distinctKeys (c : Criteria) (keys : List String) : Criteria :=
  c.project fun p => { p with distinct := p.distinct ++ keys }

/-- Project an aggregate. -/
def reduce (c : Criteria) (r : Reduce) : Criteria :=
  c.project fun p => { p with reduces := p.reduces ++ [r] }

end Criteria

/-- Assignments to the rows of one entity that meet the conditions. An assignment names a property
and its value, or is a script. -/
structure Update where
  entity : String
  assignments : List Condition := []
  conditions : List Condition := []

namespace Update

/-- Add an assignment entry. -/
def entry (u : Update) (assignment : Condition) : Update :=
  { u with assignments := u.assignments ++ [assignment] }

/-- Assign a value to a property, or bind it in a script with a placeholder. -/
def set (u : Update) (key : String) (v : Value) : Update :=
  u.entry (Condition.withValue .eq key v)

/-- Assign by a script. -/
def setScript (u : Update) (script : String) : Update :=
  u.entry (Condition.on script .script none)

/-- Join a condition by AND. -/
def and (u : Update) (condition : Condition) : Update :=
  { u with conditions := u.conditions ++ [condition.joinedBy (some .and)] }

/-- Join a condition by OR. -/
def or (u : Update) (condition : Condition) : Update :=
  { u with conditions := u.conditions ++ [condition.joinedBy (some .or)] }

end Update

end BoundQuery
