import BoundQuery.Proofs.BoundValues
import BoundQuery.Proofs.Forest
import BoundQuery.Proofs.Leaves

/-!
# Conditions at different positions

Rendering puts text behind a list of values bound before. What conditions say does not depend on
their position: only the word in front does, and that word belongs to the first condition that says
anything.

## Main definitions

* `Filter.renderOnto`, rendering with the values bound so far
* `Filter.Emitting`, the conditions that give text
* `Conjunction.leading`, the word in front of a part with its blank

## Main results

* `Filter.terms_eq_nil_iff` — conditions have no terms exactly when none of them gives text
* `Filter.terms_eq_cons` — the first term is that of the first condition that gives text
* `Filter.renderOnto_positions` — all positions agree up to the word in front
-/

namespace BoundQuery

/-- The word of a conjunction with the blank behind it. -/
def Conjunction.leading : Option Conjunction → String
  | some .and => "AND "
  | some .or => "OR "
  | none => ""

namespace Filter

/-- Conditions at a position, behind values bound before: the text or the error, and the values
bound then. -/
def renderOnto (f : Filter) (p : Position) (cs : List Condition) (bound : List Value) :
    Except CompileError String × List Value :=
  match f.render p cs with
  | .ok g => (.ok g.sql, bound ++ g.values)
  | .error h => (.error h.error, bound ++ h.bound)

/-- The conditions that give text: leaves with a body, and groups with such a condition inside. -/
inductive Emitting (f : Filter) : Condition → Prop where
  | leaf {c : Condition} {b : Fragment} (isLeaf : c.children = []) (emits : f.Emits c b) :
    Emitting f c
  | group {c d : Condition} (member : d ∈ c.children) (emits : Emitting f d) : Emitting f c

variable {f : Filter} {c : Condition} {cs : List Condition} {ts : List Term} {t : Term}

/-! ### What gives text -/

theorem emitting_leaf_iff (isLeaf : c.children = []) : f.Emitting c ↔ ∃ b, f.Emits c b := by
  constructor
  · intro emitting
    cases emitting with
    | leaf _ emits => exact ⟨_, emits⟩
    | group member _ =>
      rw [isLeaf] at member
      cases member
  · rintro ⟨b, emits⟩
    exact .leaf isLeaf emits

theorem emitting_group_iff (isGroup : c.children ≠ []) :
    f.Emitting c ↔ ∃ d ∈ c.children, f.Emitting d := by
  constructor
  · intro emitting
    cases emitting with
    | leaf isLeaf _ => exact absurd isLeaf isGroup
    | group member emits => exact ⟨_, member, emits⟩
  · rintro ⟨d, member, emits⟩
    exact .group member emits

theorem enclosed_eq_none_iff : enclosed ts = none ↔ ts = [] := by
  cases ts with
  | nil => exact iff_of_true rfl rfl
  | cons t ts => exact iff_of_false nofun nofun

/-- Conditions that render have no terms exactly when none of them gives text. -/
theorem terms_eq_nil_iff (ok : f.terms cs = .ok ts) : ts = [] ↔ ∀ c ∈ cs, ¬ f.Emitting c := by
  induction cs using Condition.forest_induction generalizing ts with
  | nil =>
    rw [terms_nil] at ok
    rw [← Except.ok.inj ok]
    simp
  | leaf c cs isLeaf ih =>
    obtain ⟨b, us, body, rest, rfl⟩ := (terms_leaf isLeaf).mp ok
    have first : b = none ↔ ¬ f.Emitting c := by
      rw [emitting_leaf_iff isLeaf]
      simp only [← leafBody_eq_some_iff, body]
      cases b with
      | none => simp
      | some b => simp
    rw [List.forall_mem_cons, ← ih rest, ← first]
    simp
  | group c cs isGroup inner ih =>
    obtain ⟨us, vs, children, rest, rfl⟩ := (terms_group isGroup).mp ok
    -- a group is enclosed exactly when something inside gives text
    have first : enclosed us = none ↔ ¬ f.Emitting c := by
      rw [enclosed_eq_none_iff, inner children, emitting_group_iff isGroup]
      simp
    rw [List.forall_mem_cons, ← ih rest, ← first]
    simp

/-- A condition that renders gives text exactly when it has a body. -/
theorem emitting_iff_isSome {b : Option Fragment} (ok : f.body c = .ok b) :
    f.Emitting c ↔ b.isSome := by
  -- as a list of its own, the condition has a term exactly when it has a body
  have alone : f.terms [c] = .ok (b.map (⟨c.conjunction, ·⟩)).toList :=
    terms_cons_eq_ok.mpr ⟨b, [], ok, terms_nil, (List.append_nil _).symm⟩
  have none := terms_eq_nil_iff alone
  rw [List.forall_mem_singleton] at none
  cases b with
  | none => simpa using none
  | some b => simpa using none

/-- The first term is that of the first condition that gives text. -/
theorem terms_eq_cons (ok : f.terms cs = .ok (t :: ts)) :
    ∃ before c after, cs = before ++ c :: after ∧ (∀ d ∈ before, ¬ f.Emitting d) ∧ f.Emitting c ∧
      f.body c = .ok (some t.body) ∧ t.conjunction = c.conjunction := by
  induction cs with
  | nil =>
    rw [terms_nil] at ok
    cases ok
  | cons c cs ih =>
    obtain ⟨b, us, body, rest, parts⟩ := terms_cons_eq_ok.mp ok
    have emits := emitting_iff_isSome body
    cases b with
    | none =>
      -- a silent condition comes before the one that the rest gives
      obtain rfl : t :: ts = us := parts
      obtain ⟨before, d, after, rfl, silent, found⟩ := ih rest
      refine ⟨c :: before, d, after, rfl, ?_, found⟩
      rw [List.forall_mem_cons]
      exact ⟨by simpa using emits, silent⟩
    | some b =>
      obtain ⟨rfl, rfl⟩ := List.cons.inj parts
      exact ⟨[], c, cs, rfl, by simp, emits.mpr rfl, body, rfl⟩

/-! ### Texts -/

/-- No body is empty. -/
theorem sql_body_ne_empty {b : Fragment} (ok : f.body c = .ok (some b)) : b.sql ≠ "" := by
  have opened : ∀ s t : String, s ≠ "" → s ++ t ≠ "" := fun s t given whole =>
    given (String.append_eq_empty_iff.mp whole).1
  by_cases isLeaf : c.children = []
  · rw [body_leaf isLeaf, Outcome.mapError_eq_ok, leafBody_eq_some_iff] at ok
    cases ok with
    | script shape resolved given =>
      rw [Fragment.sql_cons, Fragment.sql_nil, String.append_empty]
      exact given
    | nullCheck shape given resolved =>
      intro empty
      rw [Fragment.sql_cons, Fragment.sql_cons, String.append_eq_empty_iff] at empty
      exact opened " " _ (by decide) empty.2
    | comparison shape given present some resolved follows =>
      intro empty
      rw [Fragment.sql_cons, Fragment.sql_cons, String.append_eq_empty_iff] at empty
      exact opened " " _ (by decide) empty.2
  · rw [body_group isLeaf] at ok
    obtain ⟨ts, -, ok⟩ := Outcome.map_eq_ok.mp ok
    cases ts with
    | nil => cases ok
    | cons t ts =>
      rw [← Option.some.inj ok]
      exact opened "(" _ (by decide)

theorem sql_joining (c : Option Conjunction) :
    Fragment.sql (Position.joining c) = Conjunction.leading c := by
  rcases c with _ | _ | _
  · rfl
  · rfl
  · rfl

/-- At any position the terms follow the word that leads the first of them. -/
theorem sql_lay (p : Position) (t : Term) (ts : List Term) :
    Fragment.sql (p.lay (t :: ts)) =
      Fragment.sql (p.lead t.conjunction) ++ Fragment.sql (Position.groupFirst.lay (t :: ts)) := by
  rw [Position.lay, Position.lay, Position.lead, List.nil_append, List.append_assoc,
    Fragment.sql_append]

theorem sql_lay_ne_empty (ok : f.terms cs = .ok (t :: ts)) (p : Position) :
    Fragment.sql (p.lay (t :: ts)) ≠ "" := by
  obtain ⟨-, c, -, -, -, -, body, -⟩ := terms_eq_cons ok
  intro empty
  rw [Position.lay, Fragment.sql_append, Fragment.sql_append] at empty
  exact sql_body_ne_empty body
    (String.append_eq_empty_iff.mp (String.append_eq_empty_iff.mp empty).1).2

/-! ### Positions -/

theorem renderOnto_of_error {h : Halt} (failed : f.terms cs = .error h) (p : Position)
    (bound : List Value) : f.renderOnto p cs bound = (.error h.error, bound ++ h.bound) := by
  rw [renderOnto, render, failed]
  rfl

theorem renderOnto_of_ok (ok : f.terms cs = .ok ts) (p : Position) (bound : List Value) :
    f.renderOnto p cs bound =
      (.ok (Fragment.sql (p.lay ts)), bound ++ ts.flatMap fun t => Fragment.values t.body) := by
  rw [renderOnto, render, ok, ← values_lay p]
  rfl

/-- At all positions conditions fail with one error, or none fails, and the same values are bound.
Where they succeed, let `t` be the text inside a group. It is empty exactly when no condition gives
text, and then so is the text at all positions. Otherwise WHERE leads it in a statement, and at the
other positions the conjunction of the first condition that gives text. -/
theorem renderOnto_positions (f : Filter) (cs : List Condition) (bound : List Value) :
    (∃ error after, ∀ p, f.renderOnto p cs bound = (.error error, after)) ∨
      ∃ t after, f.renderOnto .groupFirst cs bound = (.ok t, after) ∧
        (t = "" ↔ ∀ c ∈ cs, ¬ f.Emitting c) ∧
        (t = "" → ∀ p, f.renderOnto p cs bound = (.ok "", after)) ∧
        (t ≠ "" → ∃ before c behind, cs = before ++ c :: behind ∧
          (∀ d ∈ before, ¬ f.Emitting d) ∧ f.Emitting c ∧
          f.renderOnto .whereFirst cs bound = (.ok ("WHERE " ++ t), after) ∧
          ∀ p ∈ [Position.whereNext, .groupNext, .fragment],
            f.renderOnto p cs bound = (.ok (Conjunction.leading c.conjunction ++ t), after)) := by
  cases rendered : f.terms cs with
  | error h => exact .inl ⟨h.error, bound ++ h.bound, fun p => renderOnto_of_error rendered p bound⟩
  | ok ts =>
    refine .inr ⟨_, _, renderOnto_of_ok rendered .groupFirst bound, ?_⟩
    simp only [renderOnto_of_ok rendered]
    rw [← terms_eq_nil_iff rendered]
    cases ts with
    | nil => exact ⟨iff_of_true rfl rfl, fun _ _ => rfl, fun given => absurd rfl given⟩
    | cons t ts =>
      have given : Fragment.sql (Position.groupFirst.lay (t :: ts)) ≠ "" :=
        sql_lay_ne_empty rendered .groupFirst
      obtain ⟨before, c, behind, parts, silent, emits, -, conjunction⟩ := terms_eq_cons rendered
      refine ⟨iff_of_false given nofun, fun empty => absurd empty given, fun _ =>
        ⟨before, c, behind, parts, silent, emits, ?_, ?_⟩⟩
      · rw [sql_lay]
        rfl
      · intro p member
        -- the three positions lead with the conjunction of the first term
        have lead : p.lead t.conjunction = Position.joining c.conjunction := by
          rw [conjunction]
          simp only [List.mem_cons, List.not_mem_nil, or_false] at member
          rcases member with rfl | rfl | rfl
          · rfl
          · rfl
          · rfl
        rw [sql_lay p, lead, sql_joining]

end Filter

end BoundQuery
