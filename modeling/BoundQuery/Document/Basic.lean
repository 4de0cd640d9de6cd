import BoundQuery.Document.PlainScalar

/-!
# Documents

A document is a tree of lists, maps and scalars, read from JSON or YAML. A plain scalar keeps its
spelling, and takes the type that the reader asks for.

## Main definitions

* `Document`, with `Document.ofJson` and `Document.toJson?`
* `Document.limited`, a document without what is nested too deep
* `Document.hasValues`, a value for each plain scalar
* `Document.text?`, `string?`, `flag?`, `name?`, `items?`, a document as one type
* `Document.fields?`, `Document.field?`, a document as a record
* `Document.optional`, a document as a value that may be missing
-/

namespace BoundQuery

/-- A tree of lists, maps and scalars. -/
inductive Document where
  | null
  | bool (b : Bool)
  | int (i : Int)
  | float (x : Binary64)
  | text (s : String)
  /-- A scalar without quotes, by its spelling. -/
  | plain (s : String)
  /-- A list. Where the format lets a record be written as the list of its members, `positional`
  says so. -/
  | list (positional : Bool) (items : List Document)
  | map (entries : List (Document × Document))
  /-- A list or map that is nested too deep to be read. -/
  | beyond
  deriving Inhabited

namespace Document

mutual

/-- A JSON document. JSON also takes the list of a record's members for the record. -/
def ofJson : Json → Document
  | .null => .null
  | .bool b => .bool b
  | .int i => .int i
  | .float x => .float x
  | .str s => .text s
  | .arr items => .list true (ofItems items)
  | .obj members => .map (ofMembers members)

/-- Each item as a document. -/
def ofItems : List Json → List Document
  | [] => []
  | j :: rest => ofJson j :: ofItems rest

/-- Each member as a document. -/
def ofMembers : List (String × Json) → List (Document × Document)
  | [] => []
  | (n, j) :: rest => (.text n, ofJson j) :: ofMembers rest

end

/-- How deep lists and maps may be nested. -/
def maxDepth : Nat := 128

mutual

/-- The document without the lists and maps that are nested deeper than `depth`. What nobody asks
for may be as deep as it likes. -/
def limited (depth : Nat) : Document → Document
  | .list positional items =>
    match depth with
    | 0 => .beyond
    | depth + 1 => .list positional (limitedItems depth items)
  | .map entries =>
    match depth with
    | 0 => .beyond
    | depth + 1 => .map (limitedEntries depth entries)
  | d => d

/-- Each item, limited. -/
def limitedItems (depth : Nat) : List Document → List Document
  | [] => []
  | d :: rest => limited depth d :: limitedItems depth rest

/-- Each entry, limited. -/
def limitedEntries (depth : Nat) : List (Document × Document) → List (Document × Document)
  | [] => []
  | (k, d) :: rest => (limited depth k, limited depth d) :: limitedEntries depth rest

end

/-- A string; a plain scalar is one if it has no other value. -/
def string? : Document → Option String
  | .text s => some s
  | .plain s =>
    match PlainScalar.resolve? s with
    | some (.str t) => some t
    | _ => none
  | _ => none

/-- A position, counted from zero. -/
def position? : Document → Option Nat
  | .plain s => PlainScalar.position? s
  | _ => none

mutual

/-- Does each plain scalar of the document have a value, and is nothing nested too deep? -/
def hasValues : Document → Bool
  | .plain s => (PlainScalar.resolve? s).isSome
  | .list _ items => itemsHaveValues items
  | .map entries => entriesHaveValues entries
  | .beyond => false
  | _ => true

/-- The same for each item. -/
def itemsHaveValues : List Document → Bool
  | [] => true
  | d :: rest => hasValues d && itemsHaveValues rest

/-- The same for each key and each value. -/
def entriesHaveValues : List (Document × Document) → Bool
  | [] => true
  | (k, d) :: rest => hasValues k && hasValues d && entriesHaveValues rest

end

mutual

/-- The document as JSON, with the values of the plain scalars. It fails on keys that are no
strings and on scalars without a value. -/
def toJson? : Document → Option Json
  | .null => some .null
  | .bool b => some (.bool b)
  | .int i => some (.int i)
  | .float x => some (.float x)
  | .text s => some (.str s)
  | .plain s => PlainScalar.resolve? s
  | .list _ items => (itemsToJson? items).map Json.arr
  | .map entries => (entriesToJson? entries).map Json.obj
  | .beyond => none

/-- Each item as JSON. -/
def itemsToJson? : List Document → Option (List Json)
  | [] => some []
  | d :: rest => do
    let j ← toJson? d
    let js ← itemsToJson? rest
    return j :: js

/-- Each entry as a member. -/
def entriesToJson? : List (Document × Document) → Option (List (String × Json))
  | [] => some []
  | (k, d) :: rest => do
    let name ← string? k
    let j ← toJson? d
    let ms ← entriesToJson? rest
    return (name, j) :: ms

end

/-- A string; a plain scalar gives its spelling. -/
def text? : Document → Option String
  | .text s => some s
  | .plain s => some s
  | _ => none

/-- A truth value. -/
def flag? : Document → Option Bool
  | .bool b => some b
  | .plain s => PlainScalar.flag? s
  | _ => none

/-- A name out of an enumeration; JSON also writes it as an object with that one member, null. -/
def name? : Document → Option String
  | .map [(.text s, .null)] => some s
  | d => d.text?

/-- A list; an empty plain scalar is an empty one. -/
def items? : Document → Option (List Document)
  | .list _ items => some items
  | .plain "" => some []
  | _ => none

/-- A map with string keys; an empty plain scalar is an empty one. -/
def entries? : Document → Option (List (String × Document))
  | .map entries => entries.mapM fun (k, d) => k.text?.map (·, d)
  | .plain "" => some []
  | _ => none

/-- Null, as a missing value. -/
def isNull : Document → Bool
  | .null => true
  | .plain s => PlainScalar.isNull s
  | _ => false

/-- A value that may be missing: null stands for its absence. -/
def optional {α : Type} (read : Document → Option α) (d : Document) : Option (Option α) :=
  if d.isNull then some none else (read d).map some

/-- A list whose items are all read by `read`. -/
def listOf {α : Type} (read : Document → Option α) (d : Document) : Option (List α) :=
  d.items?.bind fun items => items.mapM read

/-- No name of `names` is there twice. -/
def distinctNames (names : List String) (entries : List (String × Document)) : Bool :=
  names.all fun n => (entries.filter fun e => e.1 == n).length ≤ 1

/-- A record with the given field names. Each may be given once at most; other entries are let
pass. -/
def fields? (names : List String) : Document → Option (List (String × Document))
  | .list true items => if items.length ≤ names.length then some (names.zip items) else none
  | d => d.entries?.bind fun entries => if distinctNames names entries then some entries else none

/-- The field of that name. -/
def field? (name : String) (fields : List (String × Document)) : Option Document :=
  (fields.find? fun f => f.1 == name).map Prod.snd

/-- A field that has to be there. -/
def required {α : Type} (fields : List (String × Document)) (name : String)
    (read : Document → Option α) : Option α :=
  (field? name fields).bind read

/-- A field with a default for its absence. -/
def defaulted {α : Type} (fields : List (String × Document)) (name : String)
    (read : Document → Option α) (default : α) : Option α :=
  match field? name fields with
  | some d => read d
  | none => some default

end Document

end BoundQuery
