import BoundQuery.Scope.Pruned
import BoundQuery.Statement.Having
import BoundQuery.Statement.Where

/-!
# Reads

A read compiles to a SELECT statement and, unless the total is ignored, a COUNT statement over the
same source and conditions. The two share their bound values.

## Main definitions

* `Select`, a compiled read by its clauses
* `Select.sql`, `Select.countSql?`, `Select.values`, its statements and values
* `Criteria.compile`, the read of criteria
-/

namespace BoundQuery

/-- A compiled read. A clause that is left out is empty. -/
structure Select where
  columns : String
  counted : String
  /-- The label of the count, when there is a COUNT statement. -/
  countAlias : Option String
  source : String
  filter : Fragment
  groupBy : String
  having : String
  orderBy : String
  labels : Labels

namespace Select

/-- Clauses with single blanks between them. -/
def clauses (parts : List String) : String :=
  Text.joinWith " " (parts.filter fun c => !c.isEmpty)

/-- The SELECT statement. -/
def sql (s : Select) : String :=
  "SELECT " ++ s.columns ++ " " ++
    clauses [s.source, Fragment.sql s.filter, s.groupBy, s.having, s.orderBy]

/-- The COUNT statement. -/
def countSql? (s : Select) : Option String :=
  s.countAlias.map fun label =>
    "SELECT " ++ s.counted ++ " " ++ label ++ " " ++ clauses [s.source, Fragment.sql s.filter]

/-- The values of both statements, in the order of their placeholders. -/
def values (s : Select) : List Value :=
  Fragment.values s.filter

end Select

namespace Criteria

/-- The source script: the given one without FROM, or the entity itself. -/
def sourceScript (c : Criteria) (e : Entity) : String :=
  let given := Source.withoutFrom (c.source.getD "")
  if given.isEmpty then e.scriptName else given

/-- The scope of a read. Only a read with a projection declares aliases. -/
def scope (c : Criteria) (catalog : Catalog) (e : Entity) : Scope where
  catalog
  entity := e
  aliases := if c.projected.isSome then Source.aliases (c.sourceScript e) else .empty

/-- A text that is not blank. -/
def given? (text : Option String) : Option String :=
  text.filter fun s => !Text.isBlankText s

/-- The columns. -/
def projection (c : Criteria) (scope : Scope) (settings : Settings) :
    Except CompileError Projection :=
  match c.projected with
  | some p => Projection.ofProjected scope settings (!c.ignoresTotal) p
  | none => .ok Projection.all

/-- The FROM clause with its index hint. -/
def fromClause (c : Criteria) (scope : Scope) (d : Dialect) : Attempt String := do
  let script ← scope.script (c.sourceScript scope.entity)
  let hint ← match given? c.forceIndex with
    | some index => d.indexHint (Text.trim index)
    | none => pure none
  return Select.clauses ["FROM " ++ script, hint.getD ""]

/-- The conditions; a read with a projection drops those that hold defaults. -/
def effectiveConditions (c : Criteria) (scope : Scope) : List Condition :=
  if c.projected.isSome then scope.pruned c.conditions else c.conditions

/-- The GROUP BY clause. -/
def groupByClause (c : Criteria) (scope : Scope) : Attempt String :=
  match given? c.groupBy with
  | none => pure ""
  | some groupBy =>
    if c.projected.isNone then do
      Attempt.warn (.groupByIgnored groupBy c.entity)
      return ""
    else do
      let keys := ((Text.splitAll ',' groupBy).map Text.trim).filter fun k => !k.isEmpty
      let columns ← (keys.mapM scope.key : Except CompileError (List String))
      return "GROUP BY " ++ Text.joinWith ", " columns

/-- The ORDER BY clause. -/
def orderByClause (c : Criteria) (scope : Scope) : Except CompileError String := do
  if c.fixedSort then return ""
  let sorts ← (c.sorts.filter fun s => !Text.isBlankText s.key).mapM fun s => do
    return (← scope.script s.key) ++ " " ++ s.effective.name
  return if sorts.isEmpty then "" else "ORDER BY " ++ Text.joinWith ", " sorts

/-- The read of criteria. -/
def compile (c : Criteria) (catalog : Catalog) (settings : Settings) : Attempt Select := do
  let some entity := catalog.lookup? c.entity
    | Attempt.ofExcept (.error (.unresolvedEntity c.entity))
  let scope := c.scope catalog entity
  let projection ← c.projection scope settings
  let source ← c.fromClause scope settings.dialect
  let filter ← Filter.compile ⟨scope, settings.dialect⟩ .whereFirst (c.effectiveConditions scope)
  let groupBy ← c.groupByClause scope
  let having ← Having.clause settings.dialect projection.having
  let orderBy ← c.orderByClause scope
  return {
    columns := Text.joinWith ", " projection.columns
    counted := projection.counted
    countAlias := if c.ignoresTotal then none else some settings.countAlias
    source
    filter
    groupBy
    having
    orderBy
    labels := projection.labels }

end Criteria

/-- Conditions alone, each led by its conjunction. -/
def Condition.compileAll (catalog : Catalog) (d : Dialect) (entity : String) (cs : List Condition) :
    Except CompileError Fragment :=
  match catalog.lookup? entity with
  | none => .error (.unresolvedEntity entity)
  | some e => Filter.compile ⟨⟨catalog, e, .empty⟩, d⟩ .fragment cs

end BoundQuery
