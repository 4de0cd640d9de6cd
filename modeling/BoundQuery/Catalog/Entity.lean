import BoundQuery.Catalog.ColumnType
import BoundQuery.Dictionary

/-!
# Entities

An entity maps a logical name to a table, and its properties to columns.

## Main definitions

* `Property`, `Entity`
* `Entity.isSelf`, the names by which an entity denotes itself
* `Entity.isDefault`, whether a value is the default of a property
-/

namespace BoundQuery

/-- A column and what it holds. -/
structure Property where
  column : String
  type : ColumnType
  nullable : Bool := false
  /-- Are assigned values written as JSON text? -/
  json : Bool := false

/-- A logical entity. -/
structure Entity where
  name : String
  table : String
  properties : Dictionary Property

namespace Entity

/-- The name in source scripts: the first letter in lower case. -/
def scriptName (e : Entity) : String :=
  Text.lowerFirst e.name

/-- Does the name denote the entity itself? -/
def isSelf (e : Entity) (name : String) : Bool :=
  name == e.name || name == e.scriptName

/-- What qualifies the columns: the table for the entity itself, otherwise the alias. -/
def qualifier (e : Entity) (name : String) : String :=
  if name.isEmpty || e.isSelf name then e.table else name

/-- A property by its logical name. -/
def property? (e : Entity) (name : String) : Option Property :=
  e.properties.find? name

/-- The column of a property. -/
def column? (e : Entity) (name : String) : Option String :=
  (e.property? name).map Property.column

/-- Is the value the default of a property? Of an unknown property only null is. -/
def isDefault (e : Entity) (name : String) (v : Value) : Bool :=
  match e.property? name with
  | some p => p.type.isDefault p.nullable v
  | none => v.isNull

end Entity

end BoundQuery
