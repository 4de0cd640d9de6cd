import BoundQuery.Text.Blank
import BoundQuery.Text.Case
import BoundQuery.Value

/-!
# Column types

## Main definitions

* `ColumnType`, the declared types, with `ColumnType.ofName?` for their spellings
* `ColumnType.isDefault`, the values that a column of the type holds when nothing was set
-/

namespace BoundQuery

/-- The declared type of a column. -/
inductive ColumnType where
  | integer
  | float
  | string
  | boolean
  | datetime
  | date
  | uuid
  | json
  deriving DecidableEq

namespace ColumnType

/-- The canonical name. -/
def name : ColumnType → String
  | .integer => "integer"
  | .float => "float"
  | .string => "string"
  | .boolean => "boolean"
  | .datetime => "datetime"
  | .date => "date"
  | .uuid => "uuid"
  | .json => "json"

/-- All spellings. -/
def spellings : List (String × ColumnType) :=
  [("integer", .integer), ("int", .integer), ("long", .integer),
    ("float", .float), ("double", .float), ("decimal", .float),
    ("string", .string), ("text", .string), ("varchar", .string),
    ("boolean", .boolean), ("bool", .boolean),
    ("datetime", .datetime), ("timestamp", .datetime),
    ("date", .date), ("uuid", .uuid), ("json", .json)]

/-- The type of a spelling, in any case and with blanks around it. -/
def ofName? (s : String) : Option ColumnType :=
  let spelling := Text.trim (Text.lower s)
  (spellings.find? fun e => e.1 == spelling).map Prod.snd

/-- The message for a spelling of no type. -/
def unknownMessage (s : String) : String :=
  "Unknown type: '" ++ s ++
    "'. Supported: integer, float, string, boolean, datetime, date, uuid, json"

/-- Dates and moments. -/
def isTemporal : ColumnType → Bool
  | .datetime | .date => true
  | _ => false

/-- Is the value what the column holds when nothing was set? Null always is, and the type's zero is
unless the column is nullable. -/
def isDefault (t : ColumnType) (nullable : Bool) (v : Value) : Bool :=
  if v.isNull then true
  else if nullable then false
  else match t, v with
    | .integer, .int i => i == 0
    | .integer, .float x => x.isZero
    | .float, .int i => i == 0
    | .float, .float x => x.isZero
    | .boolean, .bool b => !b
    | .string, .text s => s.isEmpty
    | .datetime, .int i => i == 0
    | .date, .int i => i == 0
    | .datetime, .moment m => m == Moment.epoch
    | .date, .date d => d == Date.epoch
    | _, _ => false

end ColumnType

end BoundQuery
