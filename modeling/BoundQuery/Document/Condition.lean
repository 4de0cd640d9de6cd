import BoundQuery.Document.Value

/-!
# Conditions in documents

A node has the fields `key`, `value`, `predicate`, `conjunction` and `sub`. A conjunction that is
left out is AND; one that is null is none.

## Main definitions

* `Condition.read?`, a node of a document
* `Condition.toJson`, a node as JSON
-/

namespace BoundQuery

/-- A text or null. -/
def Json.ofText? : Option String → Json
  | some s => .str s
  | none => .null

/-- A conjunction. -/
def Conjunction.read? (d : Document) : Option Conjunction :=
  d.name?.bind Conjunction.ofName?

/-- A predicate. -/
def Predicate.read? (d : Document) : Option Predicate :=
  d.name?.bind Predicate.ofName?

namespace Condition

/-- The fields of a node. -/
def fieldNames : List String :=
  ["key", "value", "predicate", "conjunction", "sub"]

/-- A node from its fields, with children that were read already. -/
def ofFields? (fields : List (String × Document)) (children : List Condition) :
    Option Condition := do
  let key ← Document.defaulted fields "key" Document.text? ""
  let operand ← Document.defaulted fields "value" (Document.optional Operand.read?) none
  let predicate ← Document.required fields "predicate" Predicate.read?
  let conjunction ←
    Document.defaulted fields "conjunction" (Document.optional Conjunction.read?) (some .and)
  return ⟨key, operand, predicate, conjunction, children⟩

mutual

/-- A node: a map of its fields, or the list of them. -/
def read? : Document → Option Condition
  | .list true [key, value, predicate, conjunction, children] => do
    let children ← readChildren? children
    ofFields? (fieldNames.zip [key, value, predicate, conjunction]) children
  | .map entries => do
    let fields ← (Document.map entries).fields? fieldNames
    let children ← readFieldOf? entries
    ofFields? fields children
  | d => do
    let fields ← d.fields? fieldNames
    ofFields? fields []

/-- The children among the entries of a node. -/
def readFieldOf? : List (Document × Document) → Option (List Condition)
  | [] => some []
  | (name, d) :: rest => if name.text? = some "sub" then readChildren? d else readFieldOf? rest

/-- A list of nodes. -/
def readChildren? : Document → Option (List Condition)
  | .list _ items => readAll? items
  | d => if d.items?.isSome then some [] else none

/-- Each of the nodes. -/
def readAll? : List Document → Option (List Condition)
  | [] => some []
  | d :: rest => do
    let c ← read? d
    let cs ← readAll? rest
    return c :: cs

end

mutual

/-- A node with all its fields; `sub` only if there are children. -/
def toJson : Condition → Json
  | ⟨key, operand, predicate, conjunction, children⟩ =>
    let fields := [
      ("key", .str key),
      ("value", (operand.map Operand.toJson).getD .null),
      ("predicate", .str predicate.name),
      ("conjunction", Json.ofText? (conjunction.map Conjunction.name))]
    match children with
    | [] => .obj fields
    | c :: cs => .obj (fields ++ [("sub", .arr (toJson c :: allToJson cs))])

/-- Each of the nodes. -/
def allToJson : List Condition → List Json
  | [] => []
  | c :: cs => toJson c :: allToJson cs

end

end Condition

end BoundQuery
