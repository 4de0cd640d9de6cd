import BoundQuery.Catalog.Basic

/-!
# Catalog drafts

A draft is a catalog as it is written down: names may have blanks around them, types are spellings,
and a column may be left out. Building the catalog checks all that.

## Main definitions

* `PropertyDraft`, `EntityDraft`, `CatalogDraft`
* `CatalogDraft.build`, the catalog of a draft
-/

namespace BoundQuery

/-- A property as it is written down. -/
structure PropertyDraft where
  /-- The column; the property's own name when absent. -/
  column : Option String
  type : String
  nullable : Bool
  json : Bool

/-- An entity as it is written down. -/
structure EntityDraft where
  name : String
  table : String
  properties : Dictionary PropertyDraft

/-- A catalog as it is written down. -/
structure CatalogDraft where
  name : Option String
  entities : List EntityDraft

/-- The property of a draft. A column of type JSON takes its values as JSON text. -/
def PropertyDraft.build (d : PropertyDraft) (entity property : String) :
    Except CatalogError Property :=
  match ColumnType.ofName? d.type with
  | none => .error (.unknownType entity property d.type)
  | some type =>
    .ok {
      column := d.column.getD property
      type
      nullable := d.nullable
      json := d.json || type == .json }

/-- The entity of a draft. -/
def EntityDraft.build (d : EntityDraft) : Except CatalogError Entity :=
  if Text.isBlankText d.name || Text.isBlankText d.table then .error (.blankName d.name d.table)
  else do
    let properties ← d.properties.entries.mapM fun (property, p) => do
      return (property, ← p.build d.name property)
    return ⟨Text.trim d.name, Text.trim d.table, ⟨properties⟩⟩

/-- Register the entities of drafts one after the other. -/
def Catalog.registerDrafts (c : Catalog) : List EntityDraft → Except CatalogError Catalog
  | [] => .ok c
  | d :: rest => do
    let e ← d.build
    let c ← c.register e
    c.registerDrafts rest

/-- The catalog of a draft. -/
def CatalogDraft.build (d : CatalogDraft) : Except CatalogError Catalog :=
  Catalog.empty.registerDrafts d.entities

end BoundQuery
