import BoundQuery.Calendar.Moment
import BoundQuery.Json.Printer

/-!
# Values

A value stands on the right of a predicate or of an assignment. Documents hold values without a tag:
a text in ISO form stands for a date or a moment.

## Main definitions

* `Value`, the values
* `Value.toJson`, the value without a tag
* `Value.ofJson`, the value of JSON that names no constant
* `Value.bound`, the value that takes the place of a placeholder
* `Value.content`, `Value.contentText`, the value as the content of a JSON column
-/

namespace BoundQuery

/-- A value of a predicate or an assignment. -/
inductive Value where
  | null
  | bool (b : Bool)
  | int (i : Int64)
  | float (x : Binary64)
  /-- A constant of an enumeration, by its name. -/
  | constant (name : String)
  | moment (m : Moment)
  | date (d : Date)
  | text (s : String)
  | json (j : Json)
  deriving Inhabited

namespace Value

/-- Null, as a value or as a JSON document. -/
def isNull : Value → Bool
  | .null => true
  | .json .null => true
  | _ => false

/-- Null or the empty text. -/
def isNullOrEmpty : Value → Bool
  | .text s => s.isEmpty
  | v => v.isNull

/-- The value that takes the place of a placeholder: a constant goes by its name. -/
def bound : Value → Value
  | .constant name => .text name
  | v => v

/-- The value without a tag. -/
def toJson : Value → Json
  | .null => .null
  | .bool b => .bool b
  | .int i => .int i.toInt
  | .float x => .float x
  | .constant name => .obj [("enum", .str name)]
  | .moment m => .str m.text
  | .date d => .str d.text
  | .text s => .str s
  | .json j => j

/-- An integer, or a floating-point number where it does not fit 64 bits. -/
def ofInt (i : Int) : Value :=
  if -0x8000000000000000 ≤ i ∧ i < 0x8000000000000000 then .int (Int64.ofInt i) else .float (Binary64.ofInt i)

/-- A text: a moment or a date when it has that form. -/
def ofText (s : String) : Value :=
  match Moment.read? s with
  | some m => .moment m
  | none =>
    match Date.read? s with
    | some d => .date d
    | none => .text s

/-- The value of JSON that names no constant. Where several members have one name, the last of them
counts. -/
def ofJson : Json → Value
  | .null => .null
  | .bool b => .bool b
  | .int i => ofInt i
  | .float x => .float x
  | .str s => ofText s
  | j => .json j.settled

/-- The value as the content of a JSON column: constants by name. -/
def content : Value → Json
  | .constant name => .str name
  | .float x => if x.isFinite then .float x else .null
  | v => v.toJson

/-- The text of a JSON column: a text stands for itself, all else is written as JSON. -/
def contentText : Value → String
  | .text s => s
  | v => v.content.compact

end Value

end BoundQuery
