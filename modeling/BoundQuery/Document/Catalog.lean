import BoundQuery.Catalog.Draft
import BoundQuery.Document.Basic

/-!
# Catalogs in documents

## Main definitions

* `CatalogDraft.read?`, the draft of a catalog document
-/

namespace BoundQuery

/-- A property of a document. -/
def PropertyDraft.read? (d : Document) : Option PropertyDraft := do
  let fields ← d.fields? ["column", "type", "nullable", "json"]
  let column ← Document.defaulted fields "column" (Document.optional Document.text?) none
  let type ← Document.required fields "type" Document.text?
  let nullable ← Document.defaulted fields "nullable" Document.flag? false
  let json ← Document.defaulted fields "json" Document.flag? false
  return ⟨column, type, nullable, json⟩

/-- The properties of an entity by their names. -/
def PropertyDraft.readAll? (d : Document) : Option (Dictionary PropertyDraft) := do
  let entries ← d.entries?
  let properties ← entries.mapM fun (name, p) => (PropertyDraft.read? p).map (name, ·)
  return Dictionary.ofList properties

/-- An entity of a document. -/
def EntityDraft.read? (d : Document) : Option EntityDraft := do
  let fields ← d.fields? ["name", "table", "properties"]
  let name ← Document.required fields "name" Document.text?
  let table ← Document.required fields "table" Document.text?
  let properties ← Document.defaulted fields "properties" PropertyDraft.readAll? .empty
  return ⟨name, table, properties⟩

/-- The draft of a catalog document. -/
def CatalogDraft.read? (d : Document) : Option CatalogDraft := do
  let fields ← d.fields? ["name", "entities"]
  let name ← Document.defaulted fields "name" (Document.optional Document.text?) none
  let entities ← Document.required fields "entities" (Document.listOf EntityDraft.read?)
  return ⟨name, entities⟩

end BoundQuery
