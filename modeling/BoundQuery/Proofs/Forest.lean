import BoundQuery.Proofs.Outcome
import BoundQuery.Scope.Pruned
import BoundQuery.Statement.Where

/-!
# Forests of conditions

Conditions stand in lists, and each is a leaf or a group with a list of its own. Proofs about
functions on such forests go by one induction on lists, with a case for a leaf and one for a group
in front; the functions have an equation for each of the two.

## Main definitions

* `Condition.leaves`, the leaves in document order

## Main results

* `Condition.forest_induction` — induction over forests
* `Filter.terms_leaf`, `Filter.terms_group` — the terms of a forest, by its first condition
* `Scope.pruned_leaf`, `Scope.pruned_group` — the pruned forest, by its first condition
* `Scope.leaves_pruned` — pruning drops the leaves that hold defaults, and no others
-/

namespace BoundQuery

namespace Condition

mutual

/-- The leaves of a condition. -/
def leavesOf : Condition → List Condition
  | ⟨key, operand, predicate, conjunction, []⟩ => [⟨key, operand, predicate, conjunction, []⟩]
  | ⟨_, _, _, _, c :: cs⟩ => leaves (c :: cs)

/-- The conditions without children, in document order. -/
def leaves : List Condition → List Condition
  | [] => []
  | c :: cs => leavesOf c ++ leaves cs

end

variable {c : Condition} {cs : List Condition}

@[simp]
theorem leaves_nil : leaves [] = [] := by
  rw [leaves]

theorem leaves_leaf (isLeaf : c.children = []) : leaves (c :: cs) = c :: leaves cs := by
  obtain ⟨key, operand, predicate, conjunction, children⟩ := c
  obtain rfl : children = [] := isLeaf
  rw [leaves, leavesOf, List.singleton_append]

theorem leaves_group (isGroup : c.children ≠ []) :
    leaves (c :: cs) = leaves c.children ++ leaves cs := by
  obtain ⟨key, operand, predicate, conjunction, children⟩ := c
  cases children with
  | nil => exact absurd rfl isGroup
  | cons d ds => rw [leaves, leavesOf]

/-- Induction over forests: a list is empty, or starts with a leaf, or starts with a group whose
children are a smaller forest. -/
@[elab_as_elim]
theorem forest_induction {motive : List Condition → Prop} (nil : motive [])
    (leaf : ∀ c cs, c.children = [] → motive cs → motive (c :: cs))
    (group : ∀ c cs, c.children ≠ [] → motive c.children → motive cs → motive (c :: cs)) :
    ∀ cs, motive cs
  | [] => nil
  | ⟨key, operand, predicate, conjunction, []⟩ :: cs =>
    leaf _ cs rfl (forest_induction nil leaf group cs)
  | ⟨key, operand, predicate, conjunction, d :: ds⟩ :: cs =>
    group _ cs (List.cons_ne_nil d ds) (forest_induction nil leaf group (d :: ds))
      (forest_induction nil leaf group cs)

end Condition

/-! ### Terms -/

namespace Filter

variable {f : Filter} {c : Condition} {cs : List Condition} {ts : List Term}

theorem body_leaf (isLeaf : c.children = []) :
    f.body c = (f.leafBody c).mapError (⟨·, []⟩) := by
  obtain ⟨key, operand, predicate, conjunction, children⟩ := c
  obtain rfl : children = [] := isLeaf
  rw [body]

theorem body_group (isGroup : c.children ≠ []) :
    f.body c = (f.terms c.children).map enclosed := by
  obtain ⟨key, operand, predicate, conjunction, children⟩ := c
  cases children with
  | nil => exact absurd rfl isGroup
  | cons d ds => rw [body]

theorem terms_nil : f.terms [] = .ok [] := by
  rw [terms]

/-- The first condition gives a body or nothing, and the others follow. -/
theorem terms_cons_eq_ok : f.terms (c :: cs) = .ok ts ↔
    ∃ b us, f.body c = .ok b ∧ f.terms cs = .ok us ∧
      ts = (b.map (⟨c.conjunction, ·⟩)).toList ++ us := by
  rw [terms]
  cases f.body c with
  | error h => simp
  | ok b =>
    cases b with
    | none => simp [eq_comm]
    | some b =>
      cases f.terms cs with
      | error h => simp
      | ok us => simp [eq_comm]

/-- The terms of a forest that starts with a leaf. -/
theorem terms_leaf (isLeaf : c.children = []) : f.terms (c :: cs) = .ok ts ↔
    ∃ b us, f.leafBody c = .ok b ∧ f.terms cs = .ok us ∧
      ts = (b.map (⟨c.conjunction, ·⟩)).toList ++ us := by
  simp only [terms_cons_eq_ok, body_leaf isLeaf, Outcome.mapError_eq_ok]

/-- The terms of a forest that starts with a group. -/
theorem terms_group (isGroup : c.children ≠ []) : f.terms (c :: cs) = .ok ts ↔
    ∃ inner us, f.terms c.children = .ok inner ∧ f.terms cs = .ok us ∧
      ts = ((enclosed inner).map (⟨c.conjunction, ·⟩)).toList ++ us := by
  simp only [terms_cons_eq_ok, body_group isGroup, Outcome.map_eq_ok]
  constructor
  · rintro ⟨b, us, ⟨inner, ok, rfl⟩, rest, rfl⟩
    exact ⟨inner, us, ok, rest, rfl⟩
  · rintro ⟨inner, us, ok, rest, rfl⟩
    exact ⟨_, us, ⟨inner, ok, rfl⟩, rest, rfl⟩

theorem render_eq_ok {p : Position} {g : Fragment} :
    f.render p cs = .ok g ↔ ∃ ts, f.terms cs = .ok ts ∧ p.lay ts = g :=
  Outcome.map_eq_ok

theorem compile_eq_ok {p : Position} {g : Fragment} :
    f.compile p cs = .ok g ↔ ∃ ts, f.terms cs = .ok ts ∧ p.lay ts = g := by
  rw [compile, Outcome.mapError_eq_ok, render_eq_ok]

end Filter

/-! ### Pruning -/

namespace Scope

variable {s : Scope} {c : Condition} {cs : List Condition}

@[simp]
theorem pruned_nil : s.pruned [] = [] := by
  rw [pruned]

theorem pruned_leaf (isLeaf : c.children = []) :
    s.pruned (c :: cs) = if s.holdsDefault c then s.pruned cs else c :: s.pruned cs := by
  obtain ⟨key, operand, predicate, conjunction, children⟩ := c
  obtain rfl : children = [] := isLeaf
  rw [pruned, prunedNode]
  split
  · rfl
  · rfl

theorem pruned_group (isGroup : c.children ≠ []) :
    s.pruned (c :: cs) =
      if s.pruned c.children = [] then s.pruned cs
      else { c with children := s.pruned c.children } :: s.pruned cs := by
  obtain ⟨key, operand, predicate, conjunction, children⟩ := c
  cases children with
  | nil => exact absurd rfl isGroup
  | cons d ds =>
    rw [pruned, prunedNode]
    split
    · next empty => rw [if_pos empty]; rfl
    · next kept => rw [if_neg kept]; rfl

/-- The leaves of pruned conditions are the leaves that hold no default. -/
theorem leaves_pruned :
    Condition.leaves (s.pruned cs) = (Condition.leaves cs).filter fun c => !s.holdsDefault c := by
  induction cs using Condition.forest_induction with
  | nil => rw [pruned_nil, Condition.leaves_nil, List.filter_nil]
  | leaf c cs isLeaf ih =>
    rw [pruned_leaf isLeaf, Condition.leaves_leaf isLeaf, List.filter_cons]
    by_cases holds : s.holdsDefault c
    · simp [holds, ih]
    · simp [holds, Condition.leaves_leaf isLeaf, ih]
  | group c cs isGroup inner ih =>
    rw [pruned_group isGroup, Condition.leaves_group isGroup, List.filter_append, ← inner, ← ih]
    -- a group that is dropped has no leaves left
    by_cases empty : s.pruned c.children = []
    · rw [if_pos empty, empty, Condition.leaves_nil, List.nil_append]
    · rw [if_neg empty, Condition.leaves_group empty]

/-- The leaves of pruned conditions are leaves of the conditions. -/
theorem mem_leaves_pruned {leaf : Condition} (member : leaf ∈ Condition.leaves (s.pruned cs)) :
    leaf ∈ Condition.leaves cs := by
  rw [leaves_pruned] at member
  exact List.mem_of_mem_filter member

end Scope

end BoundQuery
