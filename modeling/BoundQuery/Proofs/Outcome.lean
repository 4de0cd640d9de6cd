import Mathlib.Data.List.Forall2
import BoundQuery.Error

/-!
# Outcomes taken apart

A computation that succeeded succeeded in each of its steps. The lemmas here turn the success of a
whole into the successes of its parts, so that later proofs do not open binds.

## Main results

* `Outcome.bind_eq_ok`, `Outcome.map_eq_ok`, `Outcome.map_eq_map_iff` — the parts of a step
* `Outcome.mapM_eq_ok_iff` — the parts of a list of steps
* `Attempt.outcome_bind` — an attempt fails and succeeds as its outcomes do
-/

namespace BoundQuery

namespace Outcome

variable {ε α β : Type}

theorem ok_bind (a : α) (f : α → Except ε β) : Except.ok a >>= f = f a := rfl

theorem bind_eq_ok {x : Except ε α} {f : α → Except ε β} {b : β} :
    x >>= f = .ok b ↔ ∃ a, x = .ok a ∧ f a = .ok b := by
  cases x with
  | error e => simp [bind, Except.bind]
  | ok a => simp [bind, Except.bind]

theorem map_eq_ok {x : Except ε α} {f : α → β} {b : β} :
    x.map f = .ok b ↔ ∃ a, x = .ok a ∧ f a = b := by
  cases x with
  | error e => simp [Except.map]
  | ok a => simp [Except.map]

/-- Mapped outcomes agree when both fail alike, or succeed with results of one image. -/
theorem map_eq_map_iff {γ : Type} {x : Except ε α} {y : Except ε β} {f : α → γ} {g : β → γ} :
    x.map f = y.map g ↔ (∃ e, x = .error e ∧ y = .error e) ∨
      ∃ a b, x = .ok a ∧ y = .ok b ∧ f a = g b := by
  cases x with
  | error e =>
    cases y with
    | error e' => simp [Except.map, eq_comm]
    | ok b => simp [Except.map]
  | ok a =>
    cases y with
    | error e' => simp [Except.map]
    | ok b => simp [Except.map]

theorem mapError_eq_ok {δ : Type} {x : Except ε α} {f : ε → δ} {a : α} :
    x.mapError f = .ok a ↔ x = .ok a := by
  cases x with
  | error e => simp [Except.mapError]
  | ok b => simp [Except.mapError]

@[simp]
theorem pure_eq_ok {a b : α} : (pure a : Except ε α) = .ok b ↔ a = b := by
  simp [pure, Except.pure]

theorem exists_of_isOk {x : Except ε α} (ok : x.isOk) : ∃ a, x = .ok a := by
  cases x with
  | error e => cases ok
  | ok a => exact ⟨a, rfl⟩

/-- A list of steps succeeds exactly when each step does, with the results in order. -/
theorem mapM_eq_ok_iff {f : α → Except ε β} {xs : List α} {ys : List β} :
    xs.mapM f = .ok ys ↔ List.Forall₂ (fun x y => f x = .ok y) xs ys := by
  induction xs generalizing ys with
  | nil => rw [List.mapM_nil, pure_eq_ok, List.forall₂_nil_left_iff, eq_comm]
  | cons x xs ih =>
    rw [List.mapM_cons, bind_eq_ok]
    constructor
    · rintro ⟨y, head, tail⟩
      obtain ⟨rest, tail, result⟩ := bind_eq_ok.mp tail
      rw [← pure_eq_ok.mp result]
      exact .cons head (ih.mp tail)
    · intro results
      cases results with
      | @cons _ y _ rest head tail =>
        exact ⟨y, head, bind_eq_ok.mpr ⟨rest, ih.mpr tail, rfl⟩⟩

/-- Steps of which each succeeds with a known result. -/
theorem mapM_eq_map {f : α → Except ε β} {g : α → β} {xs : List α}
    (each : ∀ x ∈ xs, f x = .ok (g x)) : xs.mapM f = .ok (xs.map g) := by
  rw [mapM_eq_ok_iff, List.forall₂_map_right_iff, List.forall₂_same]
  exact each

/-- Steps with mapped results give the mapped list of results. -/
theorem mapM_map {γ : Type} (f : α → Except ε β) (g : β → γ) (xs : List α) :
    xs.mapM (fun x => (f x).map g) = (xs.mapM f).map (List.map g) := by
  induction xs with
  | nil => rfl
  | cons x xs ih =>
    rw [List.mapM_cons, List.mapM_cons, ih]
    cases f x with
    | error e => rfl
    | ok y =>
      cases xs.mapM f with
      | error e => rfl
      | ok ys => rfl

theorem map_eq_map_of_forall₂ {γ : Type} {f : α → γ} {g : β → γ} {xs : List α} {ys : List β}
    (same : List.Forall₂ (fun x y => f x = g y) xs ys) : xs.map f = ys.map g := by
  induction same with
  | nil => rfl
  | cons head _ ih => rw [List.map_cons, List.map_cons, head, ih]

/-- What holds of each result of a list of steps holds of all of them. -/
theorem forall_of_mapM {f : α → Except ε β} {xs : List α} {ys : List β} {P : β → Prop}
    (results : xs.mapM f = .ok ys) (each : ∀ x ∈ xs, ∀ y, f x = .ok y → P y) : ∀ y ∈ ys, P y := by
  rw [mapM_eq_ok_iff] at results
  induction results with
  | nil => simp
  | cons head _ ih =>
    intro y member
    rcases List.mem_cons.mp member with rfl | member
    · exact each _ List.mem_cons_self _ head
    · exact ih (fun x member => each x (List.mem_cons_of_mem _ member)) y member

end Outcome

namespace Attempt

variable {α β : Type}

@[simp]
theorem outcome_pure (a : α) : (pure a : Attempt α).outcome = .ok a := rfl

@[simp]
theorem outcome_ofExcept (x : Except CompileError α) : (ofExcept x).outcome = x := rfl

@[simp]
theorem outcome_lift (x : Except CompileError α) : (liftM x : Attempt α).outcome = x := rfl

@[simp]
theorem outcome_warn (w : Warning) : (warn w).outcome = .ok () := rfl

/-- The outcome of two steps is that of their outcomes. -/
@[simp]
theorem outcome_bind (x : Attempt α) (f : α → Attempt β) :
    (x >>= f).outcome = x.outcome >>= fun a => (f a).outcome := by
  change (x.andThen f).outcome = _
  rw [andThen]
  cases x.outcome with
  | error e => rfl
  | ok a => rfl

/-- The warnings of two steps that succeed add up. -/
theorem warnings_bind {x : Attempt α} {a : α} (ok : x.outcome = .ok a) (f : α → Attempt β) :
    (x >>= f).warnings = x.warnings ++ (f a).warnings := by
  change (x.andThen f).warnings = _
  rw [andThen, ok]

end Attempt

end BoundQuery
