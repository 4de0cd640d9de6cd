import BoundQuery.Number.Binary64

/-!
# JSON documents

Objects keep their members in the order of writing. Numbers keep the difference between whole
numbers and floating-point numbers.
-/

namespace BoundQuery

/-- A JSON document. -/
inductive Json where
  | null
  | bool (b : Bool)
  | int (i : Int)
  | float (x : Binary64)
  | str (s : String)
  | arr (items : List Json)
  | obj (members : List (String × Json))
  deriving Inhabited

namespace Json

/-- The member of that name, when the document is an object that has one. -/
def member? (name : String) : Json → Option Json
  | .obj members => (members.find? fun m => m.1 == name).map Prod.snd
  | _ => none

/-- Give a member a value: a name that is there keeps its place, a new one goes last. -/
def putMember (members : List (String × Json)) (name : String) (value : Json) :
    List (String × Json) :=
  match members with
  | [] => [(name, value)]
  | (n, v) :: rest => if n = name then (n, value) :: rest else (n, v) :: putMember rest name value

mutual

/-- The document as JSON can carry it: a number that is not finite becomes null, and of repeated
members the last value stands at the first place. -/
def settled : Json → Json
  | .float x => if x.isFinite then .float x else .null
  | .arr items => .arr (settledItems items)
  | .obj members => .obj ((settledMembers members).foldl (fun ms m => putMember ms m.1 m.2) [])
  | j => j

/-- Each item settled. -/
def settledItems : List Json → List Json
  | [] => []
  | j :: rest => settled j :: settledItems rest

/-- Each member's value settled. -/
def settledMembers : List (String × Json) → List (String × Json)
  | [] => []
  | (n, j) :: rest => (n, settled j) :: settledMembers rest

end

end Json

end BoundQuery
