import BoundQuery.Dictionary
import BoundQuery.Text.Cut

/-!
# Result labels

What the labels of result columns stand for.

## Main definitions

* `Labels`, the names that a projection declares
* `Labels.column`, a column with a label of its own where it needs one
* `Labels.propertyFor`, the logical key of a label
-/

namespace BoundQuery

/-- The names that a statement declares. -/
structure Labels where
  /-- Aliases of the source, with their entities. -/
  aliases : Dictionary String := .empty
  /-- Projected keys, with their columns. -/
  properties : Dictionary String := .empty
  /-- Generated labels, with the expressions they stand for. -/
  expressions : Dictionary String := .empty
  deriving Inhabited

namespace Labels

/-- Is nothing declared? -/
def isEmpty (l : Labels) : Bool :=
  l.aliases.isEmpty && l.properties.isEmpty && l.expressions.isEmpty

/-- Record the column of a projected key. -/
def putProperty (l : Labels) (key column : String) : Labels :=
  { l with properties := l.properties.insert key column }

/-- Record what a label stands for. -/
def putExpression (l : Labels) (label expression : String) : Labels :=
  { l with expressions := l.expressions.insert label expression }

/-- Does an expression need a label? A dotted one does, unless it has one. -/
def needsLabel (expression : String) : Bool :=
  Text.hasChar '.' expression && !Text.hasPart " AS ".toList (Text.asciiUpper expression)

/-- The next label: the stem with the number of labels so far. -/
def next (l : Labels) (stem : String) : String :=
  stem ++ String.ofList (Nat.toDigits 10 l.expressions.size)

/-- A column for the projection, labelled where it needs a label. -/
def column (l : Labels) (stem expression : String) : String × Labels :=
  if needsLabel expression then
    (expression ++ " AS " ++ l.next stem, l.putExpression (l.next stem) expression)
  else (expression, l)

/-- Columns for the projection, from left to right. -/
def columns (l : Labels) (stem : String) : List String → List String × Labels
  | [] => ([], l)
  | e :: es =>
    let (c, l) := l.column stem e
    let (cs, l) := l.columns stem es
    (c :: cs, l)

/-- The logical key that a label of the result stands for. -/
def propertyFor (l : Labels) (label : String) : String :=
  let target := (l.expressions.find? label).getD label
  (l.properties.nameOf? target).getD target

end Labels

end BoundQuery
