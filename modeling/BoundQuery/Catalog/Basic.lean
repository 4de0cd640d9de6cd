import BoundQuery.Catalog.Entity

/-!
# Catalogs

A catalog registers entities. Two entities may not share a script name, and no property may have a
blank column.

## Main definitions

* `CatalogError`, why a catalog is refused
* `Catalog`, with `Catalog.register` and `Catalog.lookup?`
-/

namespace BoundQuery

/-- Why a catalog is refused. -/
inductive CatalogError where
  | duplicateEntity (entity : String)
  | emptyColumn (entity property : String)
  /-- The file cannot be read. -/
  | unreadable (path reason : String)
  /-- The text is no catalog document. -/
  | unparsable
  /-- An entity without a name or without a table. -/
  | blankName (name table : String)
  | unknownType (entity property type : String)
  deriving DecidableEq

/-- The message of an error. -/
def CatalogError.message : CatalogError → String
  | .duplicateEntity entity => "Entity `" ++ entity ++ "` is registered more than once"
  | .emptyColumn entity property =>
    "Entity `" ++ entity ++ "` maps property `" ++ property ++ "` to an empty column"
  | .unreadable path reason => "Failed to read catalog file: " ++ path ++ ": " ++ reason
  | .unparsable => "Failed to parse catalog: not a catalog document"
  | .blankName name table =>
    "Invalid catalog: entity name and table must be non-empty (name: '" ++ name ++ "', table: '" ++
      table ++ "')"
  | .unknownType entity property type =>
    "Invalid catalog: " ++ entity ++ "." ++ property ++ ": " ++ ColumnType.unknownMessage type

/-- The registered entities. -/
structure Catalog where
  entities : List Entity

namespace Catalog

/-- No entities. -/
def empty : Catalog := ⟨[]⟩

instance : Inhabited Catalog := ⟨empty⟩

/-- The number of entities. -/
def size (c : Catalog) : Nat :=
  c.entities.length

/-- The entity of a name, in either case of its first letter. -/
def lookup? (c : Catalog) (name : String) : Option Entity :=
  c.entities.find? fun e => e.scriptName == Text.lowerFirst name

/-- The first property with a blank column. -/
def blankColumn? (e : Entity) : Option String :=
  (e.properties.entries.find? fun p => Text.isBlankText p.2.column).map Prod.fst

/-- Register an entity. -/
def register (c : Catalog) (e : Entity) : Except CatalogError Catalog :=
  if c.entities.any fun f => f.scriptName == e.scriptName then .error (.duplicateEntity e.name)
  else match blankColumn? e with
    | some property => .error (.emptyColumn e.name property)
    | none => .ok ⟨c.entities ++ [e]⟩

end Catalog

end BoundQuery
