import BoundQuery.Proofs.Positions

/-!
# Pruned conditions and absent operands

A condition that holds its column's default can be dropped, together with the groups it leaves
empty, or it can stay without its operand. Rendering cannot tell the two apart.

## Main definitions

* `Scope.unset`, conditions in place, with no operand where they hold defaults

## Main results

* `Filter.body_of_operand_none` — a condition of the kind that pruning drops, without its operand,
  gives nothing
* `Filter.terms_pruned` — pruned conditions have the terms of the unset ones
* `Filter.renderOnto_pruned` — so they render alike at all positions
-/

namespace BoundQuery

namespace Scope

mutual

/-- A leaf that holds its column's default loses its operand; all else stays. -/
def unsetNode (s : Scope) : Condition → Condition
  | ⟨key, operand, predicate, conjunction, []⟩ =>
    if s.holdsDefault ⟨key, operand, predicate, conjunction, []⟩ then
      ⟨key, none, predicate, conjunction, []⟩
    else ⟨key, operand, predicate, conjunction, []⟩
  | ⟨key, operand, predicate, conjunction, c :: cs⟩ =>
    ⟨key, operand, predicate, conjunction, s.unset (c :: cs)⟩

/-- Conditions in place, with no operand on the leaves that hold their columns' defaults. -/
def unset (s : Scope) : List Condition → List Condition
  | [] => []
  | c :: cs => s.unsetNode c :: s.unset cs

end

variable {s : Scope} {c : Condition} {cs : List Condition}

@[simp]
theorem unset_nil : s.unset [] = [] := by
  rw [unset]

theorem unset_leaf (isLeaf : c.children = []) :
    s.unset (c :: cs) =
      (if s.holdsDefault c then { c with operand := none } else c) :: s.unset cs := by
  obtain ⟨key, operand, predicate, conjunction, children⟩ := c
  obtain rfl : children = [] := isLeaf
  rw [unset, unsetNode]

theorem unset_group (isGroup : c.children ≠ []) :
    s.unset (c :: cs) = { c with children := s.unset c.children } :: s.unset cs := by
  obtain ⟨key, operand, predicate, conjunction, children⟩ := c
  cases children with
  | nil => exact absurd rfl isGroup
  | cons d ds => rw [unset, unsetNode]

/-- No condition is lost, so a group stays a group. -/
theorem unset_ne_nil (given : cs ≠ []) : s.unset cs ≠ [] := by
  cases cs with
  | nil => exact absurd rfl given
  | cons c cs =>
    rw [unset]
    exact List.cons_ne_nil _ _

/-- Only comparisons and memberships hold defaults. -/
theorem comparesKey_of_holdsDefault (holds : s.holdsDefault c) :
    c.predicate.shape.comparesKey := by
  have candidate : c.candidate? ≠ none := by
    intro none
    rw [holdsDefault, none] at holds
    cases holds
  rw [Condition.candidate?] at candidate
  generalize c.predicate = p at candidate ⊢
  cases p with
  | eq | ne | gt | ge | lt | le | like | notLike | oneOf | noneOf | between => rfl
  | isNull | isNotNull | script | group | groupBegin | groupEnd => exact absurd rfl candidate

end Scope

namespace Filter

variable {f : Filter} {s : Scope} {c : Condition} {cs ds : List Condition}

/-- A leaf that compares its key gives nothing without an operand, whatever its key. -/
theorem body_of_operand_none (isLeaf : c.children = []) (shape : c.predicate.shape.comparesKey)
    (absent : c.operand = none) : f.body c = .ok none := by
  rw [body_leaf isLeaf, leafBody_comparesKey shape, predicateBody, absent]
  rfl

/-- A condition without a body can be left out. -/
theorem terms_cons_of_none (silent : f.body c = .ok none) (cs : List Condition) :
    f.terms (c :: cs) = f.terms cs := by
  rw [terms, silent]

/-- Conditions with one body and one conjunction stand for each other. -/
theorem terms_cons_congr {d : Condition} (bodies : f.body c = f.body d)
    (conjunctions : c.conjunction = d.conjunction) (rest : f.terms cs = f.terms ds) :
    f.terms (c :: cs) = f.terms (d :: ds) := by
  rw [terms, terms, bodies, rest, conjunctions]

/-- Pruned conditions have the terms of the unset ones, or fail like them. -/
theorem terms_pruned (f : Filter) (s : Scope) (cs : List Condition) :
    f.terms (s.pruned cs) = f.terms (s.unset cs) := by
  induction cs using Condition.forest_induction with
  | nil => rw [Scope.pruned_nil, Scope.unset_nil]
  | leaf c cs isLeaf ih =>
    rw [Scope.pruned_leaf isLeaf, Scope.unset_leaf isLeaf]
    by_cases holds : s.holdsDefault c
    · have shape : c.predicate.shape.comparesKey := Scope.comparesKey_of_holdsDefault holds
      have silent : f.body { c with operand := none } = .ok none :=
        body_of_operand_none isLeaf shape rfl
      rw [if_pos holds, if_pos holds, terms_cons_of_none silent, ih]
    · rw [if_neg holds, if_neg holds]
      exact terms_cons_congr rfl rfl ih
  | group c cs isGroup inner ih =>
    rw [Scope.pruned_group isGroup, Scope.unset_group isGroup]
    have unset : f.body { c with children := s.unset c.children } =
        (f.terms (s.unset c.children)).map enclosed :=
      body_group (Scope.unset_ne_nil isGroup)
    by_cases empty : s.pruned c.children = []
    · -- the dropped group stands on the other side, but with no terms inside
      have silent : f.body { c with children := s.unset c.children } = .ok none := by
        rw [unset, ← inner, empty, terms_nil]
        rfl
      rw [if_pos empty, terms_cons_of_none silent, ih]
    · -- a group that keeps a condition is still read as a group
      have kept : f.body { c with children := s.pruned c.children } =
          (f.terms (s.pruned c.children)).map enclosed :=
        body_group empty
      rw [if_neg empty]
      exact terms_cons_congr (by rw [kept, unset, inner]) rfl ih

/-- Dropping the conditions that hold their columns' defaults, with the groups they leave empty, is
the same as taking their operands away: at every position, and behind any values bound before, both
give one text or one error and leave one list of values. -/
theorem renderOnto_pruned (f : Filter) (s : Scope) (p : Position) (cs : List Condition)
    (bound : List Value) :
    f.renderOnto p (s.pruned cs) bound = f.renderOnto p (s.unset cs) bound := by
  rw [renderOnto, renderOnto, render, render, terms_pruned]

end Filter

end BoundQuery
