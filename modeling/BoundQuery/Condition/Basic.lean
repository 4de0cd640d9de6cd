import BoundQuery.Value

/-!
# Conditions

A condition is a predicate on a key, or a group of conditions. Each is joined to the one before it
by its conjunction.

## Main definitions

* `Conjunction`, `Predicate`, the words of conditions
* `Operand`, the right-hand side of a predicate
* `Condition`, a node of a condition tree, with one constructor function per kind of node
-/

namespace BoundQuery

/-- The connective between a condition and the one before it. -/
inductive Conjunction where
  | and
  | or
  deriving DecidableEq

/-- The SQL word. -/
def Conjunction.sql : Conjunction → String
  | .and => "AND"
  | .or => "OR"

/-- The name in documents. -/
def Conjunction.name : Conjunction → String := Conjunction.sql

/-- The conjunction of a name. -/
def Conjunction.ofName? (s : String) : Option Conjunction :=
  [Conjunction.and, .or].find? fun c => c.name == s

/-- What a condition says of its key. -/
inductive Predicate where
  | eq
  | ne
  | gt
  | ge
  | lt
  | le
  | like
  | notLike
  | oneOf
  | noneOf
  | between
  | isNull
  | isNotNull
  /-- The key is a script of the caller's own SQL. -/
  | script
  /-- The marks of a group: the group itself, its begin and its end. -/
  | group
  | groupBegin
  | groupEnd
  deriving DecidableEq

namespace Predicate

/-- All predicates. -/
def all : List Predicate :=
  [.eq, .ne, .gt, .ge, .lt, .le, .like, .notLike, .oneOf, .noneOf, .between, .isNull, .isNotNull,
    .script, .group, .groupBegin, .groupEnd]

/-- The SQL operator between key and operand. -/
def sql : Predicate → String
  | .eq => "="
  | .ne => "<>"
  | .gt => ">"
  | .ge => ">="
  | .lt => "<"
  | .le => "<="
  | .like => "LIKE"
  | .notLike => "NOT LIKE"
  | .oneOf => "IN"
  | .noneOf => "NOT IN"
  | .between => "BETWEEN"
  | .isNull => "IS NULL"
  | .isNotNull => "IS NOT NULL"
  | .script => ""
  | .group => "SUB"
  | .groupBegin => "("
  | .groupEnd => ")"

/-- The name in documents. -/
def name : Predicate → String
  | .eq => "EQ"
  | .ne => "NE"
  | .gt => "GT"
  | .ge => "GTE"
  | .lt => "LT"
  | .le => "LTE"
  | .like => "LIKE"
  | .notLike => "NOT_LIKE"
  | .oneOf => "IN"
  | .noneOf => "NOT_IN"
  | .between => "BETWEEN"
  | .isNull => "IS_NULL"
  | .isNotNull => "IS_NOT_NULL"
  | .script => "X"
  | .group => "SUB"
  | .groupBegin => "SUB_BEGIN"
  | .groupEnd => "SUB_END"

/-- The predicate of a name. -/
def ofName? (s : String) : Option Predicate :=
  all.find? fun p => p.name == s

/-- Equality and order. -/
def isComparison : Predicate → Bool
  | .eq | .ne | .gt | .ge | .lt | .le => true
  | _ => false

/-- Membership in a list, or its negation. -/
def isMembership : Predicate → Bool
  | .oneOf | .noneOf => true
  | _ => false

end Predicate

/-- The right-hand side of a predicate. -/
inductive Operand where
  | value (v : Value)
  | list (vs : List Value)
  | range (min max : Value)
  deriving Inhabited

namespace Operand

/-- A single null: the predicate then says nothing. -/
def isAbsent : Operand → Bool
  | .value v => v.isNull
  | _ => false

/-- The single value, if it is one. -/
def scalar? : Operand → Option Value
  | .value v => some v
  | _ => none

/-- An operand without a tag. -/
def toJson : Operand → Json
  | .value v => v.toJson
  | .list vs => .arr (vs.map Value.toJson)
  | .range min max => .obj [("min", min.toJson), ("max", max.toJson)]

end Operand

/-- A node of a condition tree. A node with children is a group. -/
structure Condition where
  key : String
  operand : Option Operand
  predicate : Predicate
  conjunction : Option Conjunction
  children : List Condition

namespace Condition

instance : Inhabited Condition := ⟨⟨"", none, .eq, none, []⟩⟩

/-- Does the node have children? -/
def isGroup (c : Condition) : Bool :=
  !c.children.isEmpty

/-- The single value of the operand, if it has one. -/
def scalar? (c : Condition) : Option Value :=
  c.operand.bind Operand.scalar?

/-- A predicate on a key, joined by AND. -/
def on (key : String) (predicate : Predicate) (operand : Option Operand) : Condition :=
  ⟨key, operand, predicate, some .and, []⟩

/-- A predicate with a single value. -/
def withValue (predicate : Predicate) (key : String) (v : Value) : Condition :=
  on key predicate (some (.value v))

/-- Membership in a list. -/
def oneOf (key : String) (vs : List Value) : Condition :=
  on key .oneOf (some (.list vs))

/-- Membership in no place of a list. -/
def noneOf (key : String) (vs : List Value) : Condition :=
  on key .noneOf (some (.list vs))

/-- A range with both ends. -/
def between (key : String) (min max : Value) : Condition :=
  on key .between (some (.range min max))

/-- A null check; the checked expression is the operand. -/
def isNull (key : String) : Condition :=
  on key .isNull (some (.value (.text key)))

/-- A check for presence; the checked expression is the operand. -/
def isNotNull (key : String) : Condition :=
  on key .isNotNull (some (.value (.text key)))

/-- A script with the values it binds. -/
def script (key : String) (vs : List Value) : Condition :=
  on key .script (if vs.isEmpty then none else some (.list vs))

/-- A group. -/
def group (children : List Condition) : Condition :=
  ⟨"SUB", none, .group, some .and, children⟩

/-- The node with another conjunction. -/
def joinedBy (c : Condition) (conjunction : Option Conjunction) : Condition :=
  { c with conjunction }

end Condition

end BoundQuery
