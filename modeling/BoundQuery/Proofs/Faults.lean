import BoundQuery.Proofs.Forest
import BoundQuery.Proofs.Leaves

/-!
# Faults

A failed computation has one fault. Conditions have that of their first faulty leaf in document
order, whatever the groups around it, so two renderings fail alike when their leaves do.

## Main definitions

* `CompileError.kind`, an error without its details
* `Outcome.fault?`, the error of a failed computation
* `Outcome.FailsWithin`, computations that fail with errors of some class only
* `Outcome.Related`, two computations that fail together or succeed together
* `Outcome.Alike`, related computations with one error, and under a condition one result

## Main results

* `Outcome.Related.bind`, `Outcome.Related.mapM` — steps of related computations
* `Filter.fault?_compile` — conditions fail with the fault of their first faulty leaf
* `Filter.failsWithin_compile` — conditions fail as their leaves do
* `Filter.compile_congr` — conditions are rendered alike when their leaves are
-/

namespace BoundQuery

/-- The kinds of errors. -/
inductive CompileError.Kind where
  | unresolvedEntity
  | unmappedProperty
  | syntaxFault
  | emptyUpdate
  | catalog
  deriving DecidableEq

/-- The kind of an error. -/
def CompileError.kind : CompileError → CompileError.Kind
  | .unresolvedEntity _ => .unresolvedEntity
  | .unmappedProperty _ _ => .unmappedProperty
  | .syntaxFault _ => .syntaxFault
  | .emptyUpdate _ => .emptyUpdate
  | .catalog _ => .catalog

namespace Outcome

variable {ε α β : Type}

/-- The error of a failed computation. -/
def fault? : Except ε α → Option ε
  | .error e => some e
  | .ok _ => none

@[simp]
theorem fault?_error (e : ε) : fault? (.error e : Except ε α) = some e := rfl

@[simp]
theorem fault?_ok (a : α) : fault? (.ok a : Except ε α) = none := rfl

theorem fault?_eq_some {x : Except ε α} {e : ε} : fault? x = some e ↔ x = .error e := by
  cases x with
  | error d => simp
  | ok a => simp

theorem fault?_map (x : Except ε α) (f : α → β) : fault? (x.map f) = fault? x := by
  cases x with
  | error e => rfl
  | ok a => rfl

theorem fault?_mapError {δ : Type} (x : Except ε α) (f : ε → δ) :
    fault? (x.mapError f) = (fault? x).map f := by
  cases x with
  | error e => rfl
  | ok a => rfl

theorem bind_eq_error {x : Except ε α} {f : α → Except ε β} {e : ε} :
    x >>= f = .error e ↔ x = .error e ∨ ∃ a, x = .ok a ∧ f a = .error e := by
  cases x with
  | error d => simp [bind, Except.bind]
  | ok a => simp [bind, Except.bind]

/-- A step that cannot fail hands on the error of the step before it. -/
theorem bind_pure_eq_error {x : Except ε α} {f : α → β} {e : ε} :
    (x >>= fun a => pure (f a)) = .error e ↔ x = .error e := by
  cases x with
  | error d => simp [bind, Except.bind]
  | ok a => simp [bind, Except.bind, pure, Except.pure]

/-! ### The errors of a computation -/

/-- If the computation fails, then with an error in `E`. -/
def FailsWithin (E : ε → Prop) (x : Except ε α) : Prop :=
  ∀ e, x = .error e → E e

namespace FailsWithin

variable {E : ε → Prop} {x : Except ε α}

theorem ok (a : α) : FailsWithin E (.ok a : Except ε α) := by
  rintro e ⟨⟩

theorem error {e : ε} (within : E e) : FailsWithin E (.error e : Except ε α) := by
  rintro d ⟨⟩
  exact within

theorem of_isOk (succeeds : ∃ a, x = .ok a) : FailsWithin E x := by
  obtain ⟨a, rfl⟩ := succeeds
  exact ok a

theorem bind {f : α → Except ε β} (first : FailsWithin E x)
    (next : ∀ a, x = .ok a → FailsWithin E (f a)) : FailsWithin E (x >>= f) := by
  cases x with
  | error d => exact error (first d rfl)
  | ok a => exact next a rfl

theorem map {f : α → β} (within : FailsWithin E x) : FailsWithin E (x.map f) := by
  cases x with
  | error d => exact error (within d rfl)
  | ok a => exact ok (f a)

theorem mapM {f : α → Except ε β} {xs : List α} (each : ∀ x ∈ xs, FailsWithin E (f x)) :
    FailsWithin E (xs.mapM f) := by
  induction xs with
  | nil => exact ok []
  | cons x xs ih =>
    rw [List.forall_mem_cons] at each
    rw [List.mapM_cons]
    exact each.1.bind fun y _ => (ih each.2).bind fun ys _ => ok (y :: ys)

end FailsWithin

/-! ### Two computations side by side -/

/-- Two computations fail together, with related errors, or succeed together, with related
results. -/
inductive Related (E : ε → ε → Prop) (R : α → β → Prop) : Except ε α → Except ε β → Prop where
  | error {e e' : ε} (errors : E e e') : Related E R (.error e) (.error e')
  | ok {a : α} {b : β} (results : R a b) : Related E R (.ok a) (.ok b)

namespace Related

variable {γ δ : Type} {E : ε → ε → Prop} {R : α → β → Prop} {S : γ → δ → Prop}
  {x : Except ε α} {y : Except ε β}

theorem refl (same : ∀ e, E e e) (x : Except ε α) : Related E Eq x x := by
  cases x with
  | error e => exact .error (same e)
  | ok a => exact .ok rfl

theorem imp {D : ε → ε → Prop} {Q : α → β → Prop} (related : Related E R x y)
    (errors : ∀ e e', E e e' → D e e')
    (results : ∀ a b, x = .ok a → y = .ok b → R a b → Q a b) : Related D Q x y := by
  cases related with
  | error faults => exact .error (errors _ _ faults)
  | ok values => exact .ok (results _ _ rfl rfl values)

theorem eq_error_or_eq_ok (related : Related E R x y) :
    (∃ e e', x = .error e ∧ y = .error e' ∧ E e e') ∨ ∃ a b, x = .ok a ∧ y = .ok b ∧ R a b := by
  cases related with
  | error errors => exact .inl ⟨_, _, rfl, rfl, errors⟩
  | ok results => exact .inr ⟨_, _, rfl, rfl, results⟩

/-- Computations with one fault fail together or succeed together. -/
theorem of_fault? (same : fault? x = fault? y) :
    Related Eq (fun a b => x = .ok a ∧ y = .ok b) x y := by
  cases x with
  | error e =>
    cases y with
    | error e' => exact .error (Option.some.inj same)
    | ok b => cases same
  | ok a =>
    cases y with
    | error e' => cases same
    | ok b => exact .ok ⟨rfl, rfl⟩

theorem fault?_eq (related : Related Eq R x y) : fault? x = fault? y := by
  cases related with
  | error same => rw [same, fault?_error, fault?_error]
  | ok _ => rfl

/-- Related computations go on to related ones. -/
theorem bind {f : α → Except ε γ} {g : β → Except ε δ} (first : Related E R x y)
    (next : ∀ a b, x = .ok a → y = .ok b → R a b → Related E S (f a) (g b)) :
    Related E S (x >>= f) (y >>= g) := by
  cases first with
  | error errors => exact .error errors
  | ok results => exact next _ _ rfl rfl results

theorem map {f : α → γ} {g : β → δ} (first : Related E R x y)
    (results : ∀ a b, R a b → S (f a) (g b)) : Related E S (x.map f) (y.map g) := by
  cases first with
  | error errors => exact .error errors
  | ok values => exact .ok (results _ _ values)

/-- Lists of related steps are related, result by result. -/
theorem mapM {f : γ → Except ε α} {g : γ → Except ε β} {xs : List γ}
    (each : ∀ x ∈ xs, Related E R (f x) (g x)) :
    Related E (List.Forall₂ R) (xs.mapM f) (xs.mapM g) := by
  induction xs with
  | nil => exact .ok .nil
  | cons x xs ih =>
    rw [List.forall_mem_cons] at each
    rw [List.mapM_cons, List.mapM_cons]
    refine each.1.bind fun a b _ _ first => (ih each.2).bind fun as bs _ _ others => ?_
    exact .ok (.cons first others)

end Related

/-- Two computations fail together with one error, or succeed together, with one result where `P`
holds. -/
def Alike (P : Prop) (x y : Except ε α) : Prop :=
  Related Eq (fun a b => P → a = b) x y

namespace Alike

variable {P : Prop} {x y : Except ε α}

theorem refl (x : Except ε α) : Alike P x x :=
  (Related.refl (fun _ => rfl) x).imp (fun _ _ same => same) fun _ _ _ _ same _ => same

theorem eq (alike : Alike P x y) (holds : P) : x = y := by
  cases alike with
  | error same => rw [same]
  | ok same => rw [same holds]

/-- Lists of steps that are alike are alike; with or without `P`, both have results or neither. -/
theorem mapM {γ : Type} {f g : γ → Except ε α} {xs : List γ}
    (each : ∀ x ∈ xs, Alike P (f x) (g x)) :
    Related Eq (fun as bs => as.isEmpty = bs.isEmpty ∧ (P → as = bs)) (xs.mapM f) (xs.mapM g) := by
  refine (Related.mapM each).imp (fun _ _ same => same) fun as bs _ _ results => ?_
  refine ⟨?_, fun holds => ?_⟩
  · rw [Bool.eq_iff_iff, List.isEmpty_iff_length_eq_zero, List.isEmpty_iff_length_eq_zero,
      results.length_eq]
  · exact List.forall₂_eq_eq_eq ▸ results.imp fun _ _ same => same holds

end Alike

end Outcome

open Outcome

/-! ### Conditions -/

namespace Filter

variable {f g : Filter} {c : Condition} {cs : List Condition}

/-- The fault of a forest is that of its first condition, or else that of the others. -/
theorem fault?_terms_cons : (fault? (f.terms (c :: cs))).map Halt.error =
    ((fault? (f.body c)).map Halt.error).or ((fault? (f.terms cs)).map Halt.error) := by
  rw [terms]
  cases f.body c with
  | error h => rfl
  | ok b =>
    cases b with
    | none => rfl
    | some b =>
      cases f.terms cs with
      | error h => rfl
      | ok ts => rfl

/-- The fault of a forest is that of its first faulty leaf. -/
theorem fault?_terms : (fault? (f.terms cs)).map Halt.error =
    (Condition.leaves cs).findSome? fun c => fault? (f.leafBody c) := by
  induction cs using Condition.forest_induction with
  | nil => rw [terms_nil, Condition.leaves_nil]; rfl
  | leaf c cs isLeaf ih =>
    rw [fault?_terms_cons, ih, body_leaf isLeaf, fault?_mapError, Condition.leaves_leaf isLeaf,
      List.findSome?_cons]
    cases fault? (f.leafBody c) with
    | none => rfl
    | some e => rfl
  | group c cs isGroup inner ih =>
    rw [fault?_terms_cons, ih, body_group isGroup, fault?_map, inner,
      Condition.leaves_group isGroup, List.findSome?_append]

/-- Rendered conditions fail with the fault of their first faulty leaf in document order. -/
theorem fault?_compile (p : Position) : fault? (f.compile p cs) =
    (Condition.leaves cs).findSome? fun c => fault? (f.leafBody c) := by
  rw [compile, render, fault?_mapError, fault?_map, fault?_terms]

/-- Conditions fail as their leaves do. -/
theorem failsWithin_compile {E : CompileError → Prop}
    (leaves : ∀ c ∈ Condition.leaves cs, FailsWithin E (f.leafBody c)) (p : Position) :
    FailsWithin E (f.compile p cs) := by
  intro e failed
  rw [← fault?_eq_some, fault?_compile, List.findSome?_eq_some_iff] at failed
  obtain ⟨before, c, after, parts, faulty, -⟩ := failed
  refine leaves c ?_ e (fault?_eq_some.mp faulty)
  rw [parts]
  exact List.mem_append_right before List.mem_cons_self

/-- Leaves with one body each give one list of terms. -/
theorem terms_congr (leaves : ∀ c ∈ Condition.leaves cs, f.leafBody c = g.leafBody c) :
    f.terms cs = g.terms cs := by
  induction cs using Condition.forest_induction with
  | nil => rw [terms_nil, terms_nil]
  | leaf c cs isLeaf ih =>
    rw [Condition.leaves_leaf isLeaf, List.forall_mem_cons] at leaves
    rw [terms, terms, body_leaf isLeaf, body_leaf isLeaf, leaves.1, ih leaves.2]
  | group c cs isGroup inner ih =>
    rw [Condition.leaves_group isGroup, List.forall_mem_append] at leaves
    rw [terms, terms, body_group isGroup, body_group isGroup, inner leaves.1, ih leaves.2]

theorem compile_congr (leaves : ∀ c ∈ Condition.leaves cs, f.leafBody c = g.leafBody c)
    (p : Position) : f.compile p cs = g.compile p cs := by
  rw [compile, compile, render, render, terms_congr leaves]

end Filter

end BoundQuery
