import BoundQuery.Criteria
import BoundQuery.Document.Condition

/-!
# Criteria and updates in documents

## Main definitions

* `Criteria.read?`, `Criteria.toJson`
* `Update.read?`, `Update.toJson`
-/

namespace BoundQuery

/-- A sort direction. -/
def Direction.read? (d : Document) : Option Direction :=
  d.name?.bind Direction.ofName?

/-- A sort key. -/
def SortKey.read? (d : Document) : Option SortKey := do
  let fields ← d.fields? ["order_by", "direction"]
  let key ← Document.required fields "order_by" Document.text?
  let direction ← Document.defaulted fields "direction" (Document.optional Direction.read?) none
  return ⟨key, direction⟩

/-- A sort key as JSON. -/
def SortKey.toJson (s : SortKey) : Json :=
  .obj [
    ("order_by", .str s.key),
    ("direction", Json.ofText? (s.direction.map Direction.name))]

/-- A kind of aggregate. -/
def Aggregate.read? (d : Document) : Option Aggregate :=
  d.name?.bind Aggregate.ofName?

/-- An aggregate. -/
def Reduce.read? (d : Document) : Option Reduce := do
  let fields ← d.fields? ["property", "type", "having"]
  let property ← Document.required fields "property" Document.text?
  let aggregate ← Document.required fields "type" Aggregate.read?
  let having ← Document.defaulted fields "having" (Document.optional Condition.read?) none
  return ⟨property, aggregate, having⟩

/-- An aggregate as JSON. -/
def Reduce.toJson (r : Reduce) : Json :=
  .obj [
    ("property", .str r.property),
    ("type", .str r.aggregate.name),
    ("having", (r.having.map Condition.toJson).getD .null)]

/-- A projection. -/
def Projected.read? (d : Document) : Option Projected := do
  let fields ← d.fields? ["result_keys", "distinct", "reduces"]
  let resultKeys ← Document.defaulted fields "result_keys" (Document.listOf Document.text?) []
  let distinct ← Document.defaulted fields "distinct" (Document.listOf Document.text?) []
  let reduces ← Document.defaulted fields "reduces" (Document.listOf Reduce.read?) []
  return ⟨resultKeys, distinct, reduces⟩

/-- A projection as JSON. -/
def Projected.toJson (p : Projected) : Json :=
  .obj [
    ("result_keys", .arr (p.resultKeys.map Json.str)),
    ("distinct", .arr (p.distinct.map Json.str)),
    ("reduces", .arr (p.reduces.map Reduce.toJson))]

namespace Criteria

/-- The fields of criteria. -/
def fieldNames : List String :=
  ["entity", "source_script", "conditions", "sorts", "group_by", "force_index",
    "total_rows_ignored", "fixed_sort", "result_mapped"]

/-- Criteria of a document. -/
def read? (d : Document) : Option Criteria := do
  let fields ← d.fields? fieldNames
  let entity ← Document.required fields "entity" Document.text?
  let text? := fun name => Document.defaulted fields name (Document.optional Document.text?) none
  let flag? := fun name => Document.defaulted fields name Document.flag? false
  let source ← text? "source_script"
  let conditions ← Document.defaulted fields "conditions" Condition.readChildren? []
  let sorts ← Document.defaulted fields "sorts" (Document.listOf SortKey.read?) []
  let groupBy ← text? "group_by"
  let forceIndex ← text? "force_index"
  let ignoresTotal ← flag? "total_rows_ignored"
  let fixedSort ← flag? "fixed_sort"
  let projected ←
    Document.defaulted fields "result_mapped" (Document.optional Projected.read?) none
  return {
    entity, source, conditions, sorts, groupBy, forceIndex, ignoresTotal, fixedSort, projected }

/-- Criteria as JSON, with all their fields. -/
def toJson (c : Criteria) : Json :=
  .obj [
    ("entity", .str c.entity),
    ("source_script", Json.ofText? c.source),
    ("conditions", .arr (Condition.allToJson c.conditions)),
    ("sorts", .arr (c.sorts.map SortKey.toJson)),
    ("group_by", Json.ofText? c.groupBy),
    ("force_index", Json.ofText? c.forceIndex),
    ("total_rows_ignored", .bool c.ignoresTotal),
    ("fixed_sort", .bool c.fixedSort),
    ("result_mapped", (c.projected.map Projected.toJson).getD .null)]

end Criteria

namespace Update

/-- The fields of an update. -/
def fieldNames : List String :=
  ["entity", "refresh_list", "conditions"]

/-- An update of a document. -/
def read? (d : Document) : Option Update := do
  let fields ← d.fields? fieldNames
  let entity ← Document.required fields "entity" Document.text?
  let assignments ← Document.defaulted fields "refresh_list" Condition.readChildren? []
  let conditions ← Document.defaulted fields "conditions" Condition.readChildren? []
  return { entity, assignments, conditions }

/-- An update as JSON, with all its fields. -/
def toJson (u : Update) : Json :=
  .obj [
    ("entity", .str u.entity),
    ("refresh_list", .arr (Condition.allToJson u.assignments)),
    ("conditions", .arr (Condition.allToJson u.conditions))]

end Update

end BoundQuery
