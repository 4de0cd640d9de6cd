import BoundQuery.Document.Basic
import BoundQuery.Settings

/-!
# Settings in documents

## Main definitions

* `Settings.read?`, the settings of a document; fields that are left out take their defaults
-/

namespace BoundQuery

/-- A dialect by its exact name. -/
def Dialect.ofDocument? (d : Document) : Option Dialect :=
  d.name?.bind Dialect.ofName?

/-- The settings of a document. -/
def Settings.read? (d : Document) : Option Settings := do
  let fields ← d.fields? ["dialect", "count_alias", "alias_separator", "result_alias_prefix"]
  let initial : Settings := {}
  let dialect ← Document.defaulted fields "dialect" Dialect.ofDocument? initial.dialect
  let countAlias ← Document.defaulted fields "count_alias" Document.text? initial.countAlias
  let separator ← Document.defaulted fields "alias_separator" Document.text? initial.separator
  let stem ← Document.defaulted fields "result_alias_prefix" Document.text? initial.stem
  return ⟨dialect, countAlias, separator, stem⟩

end BoundQuery
