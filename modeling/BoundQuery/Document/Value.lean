import BoundQuery.Condition.Basic
import BoundQuery.Document.Basic

/-!
# Values in documents

Documents hold values and operands without a tag, so reading takes the first kind that fits. A map
with the field `enum` names a constant, and one with the fields `min` and `max` is a range. Such a
map may give a field by its position instead of its name.

## Main definitions

* `Document.shape?`, a map as a record that may name its fields by position
* `Value.read?`, a value without a tag
* `Operand.read?`, an operand without a tag
-/

namespace BoundQuery

namespace Document

/-- The field that a key stands for: its text, or the name at the position that it gives. A position
behind the last field stands for none of them, and any other key is an error. -/
def fieldName? (names : List String) (key : Document) : Option (Option String) :=
  match key.string? with
  | some s => some (some s)
  | none => key.position?.map fun n => names[n]?

/-- The named fields of a map. -/
def namedFields? (names : List String) :
    List (Document × Document) → Option (List (String × Document))
  | [] => some []
  | (k, d) :: rest => do
    let name ← fieldName? names k
    let fields ← namedFields? names rest
    return match name with
      | some n => (n, d) :: fields
      | none => fields

/-- The fields of a map that may stand for a record with the given field names, in their order. Each
field is there once. -/
def shape? (names : List String) (entries : List (Document × Document)) :
    Option (List Document) := do
  let fields ← namedFields? names entries
  if distinctNames names fields then names.mapM fun n => field? n fields else none

end Document

namespace Value

/-- The name of the constant that a map stands for. -/
def constantName? (d : Document) : Option String :=
  match d with
  | .map entries =>
    match Document.shape? ["enum"] entries with
    | some [name] => name.string?
    | _ => none
  | _ => none

/-- The value of a document whose scalars have values. -/
def ofDocument? (d : Document) : Option Value :=
  match constantName? d with
  | some name => some (.constant name)
  | none => d.toJson?.map ofJson

/-- A value without a tag. -/
def read? (d : Document) : Option Value :=
  if d.hasValues then ofDocument? d else none

end Value

namespace Operand

/-- The range that a map stands for. -/
def range? (entries : List (Document × Document)) : Option Operand :=
  match Document.shape? ["min", "max"] entries with
  | some [min, max] => do
    let low ← Value.ofDocument? min
    let high ← Value.ofDocument? max
    return .range low high
  | _ => none

/-- The operand of a document whose scalars have values: a range, a list of values, or else a single
value. -/
def ofDocument? : Document → Option Operand
  | .map entries =>
    match range? entries with
    | some r => some r
    | none => (Value.ofDocument? (.map entries)).map .value
  | .list _ items => (items.mapM Value.ofDocument?).map .list
  | d => (Value.ofDocument? d).map .value

/-- An operand without a tag. -/
def read? (d : Document) : Option Operand :=
  if d.hasValues then ofDocument? d else none

end Operand

end BoundQuery
