import BoundQuery.Scope.Basic

/-!
# Pruned conditions

A comparison with the default of its column counts as a filter that was not set, and is dropped. A
group that loses all its conditions is dropped too.

## Main definitions

* `Scope.holdsDefault`, whether a condition compares a column with its default
* `Scope.pruned`, conditions without those
-/

namespace BoundQuery

/-- The one value that a condition compares its key with. -/
def Condition.candidate? (c : Condition) : Option Value :=
  if c.predicate.isComparison then c.scalar?
  else if c.predicate.isMembership then
    match c.operand with
    | some (.value v) => some v
    | some (.list [v]) => some v
    | _ => none
  else none

namespace Scope

/-- Does the condition compare a known property with the default of its column? A null is no
default here: it makes the operand absent. -/
def holdsDefault (s : Scope) (c : Condition) : Bool :=
  match c.candidate?, s.owner? c.key with
  | some v, some (e, property) => !v.isNull && e.isDefault property v
  | _, _ => false

mutual

/-- A node without the conditions that hold defaults, unless nothing is left of it. -/
def prunedNode (s : Scope) : Condition → Option Condition
  | ⟨key, operand, predicate, conjunction, []⟩ =>
    let leaf : Condition := ⟨key, operand, predicate, conjunction, []⟩
    if s.holdsDefault leaf then none else some leaf
  | ⟨key, operand, predicate, conjunction, c :: cs⟩ =>
    match s.pruned (c :: cs) with
    | [] => none
    | kept => some ⟨key, operand, predicate, conjunction, kept⟩

/-- Conditions without those that hold defaults. -/
def pruned (s : Scope) : List Condition → List Condition
  | [] => []
  | c :: cs => (s.prunedNode c).toList ++ s.pruned cs

end

end Scope

end BoundQuery
