import BoundQuery.Proofs.Outcome
import BoundQuery.Statement.Where

/-!
# Leaves by the shape of their predicates

The body of a leaf depends on its predicate through one of six shapes only. Each shape has an
equation for the body, and each body that a leaf can have is one case of `Filter.Emits`.

## Main definitions

* `Predicate.shape`, the six shapes
* `Condition.scriptValues`, the values of a script
* `Filter.Emits`, the bodies of leaves

## Main results

* `Filter.leafBody_eq_some_iff` — the body of a leaf is one of the cases
-/

namespace BoundQuery

/-- What the body of a leaf consists of. -/
inductive Predicate.Shape where
  /-- Marks of groups: nothing. -/
  | marker
  /-- The caller's own script. -/
  | script
  /-- An expression and its check. -/
  | nullCheck
  /-- A key and a list of members. -/
  | membership
  /-- A key and the two ends of a range. -/
  | between
  /-- A key and one value. -/
  | single
  deriving DecidableEq

/-- The shape of a predicate. -/
def Predicate.shape : Predicate → Predicate.Shape
  | .group | .groupBegin | .groupEnd => .marker
  | .script => .script
  | .isNull | .isNotNull => .nullCheck
  | .oneOf | .noneOf => .membership
  | .between => .between
  | .eq | .ne | .gt | .ge | .lt | .le | .like | .notLike => .single

/-- Do leaves of the shape compare a key with an operand? -/
def Predicate.Shape.comparesKey : Predicate.Shape → Bool
  | .membership | .between | .single => true
  | _ => false

/-- The values of an operand. -/
def Operand.values : Operand → List Value
  | .value v => [v]
  | .list vs => vs
  | .range min max => [min, max]

/-- The values that a script condition binds. -/
def Condition.scriptValues (c : Condition) : List Value :=
  match c.operand with
  | some (.list vs) => vs
  | some (.value v) => if v.isNull then [] else [v]
  | some (.range min max) => [min, max]
  | none => []

/-- What a list of members that renders looks like. -/
theorem Dialect.memberList_eq_ok {d : Dialect} {vs : List Value} {list : Fragment}
    (ok : d.memberList vs = .ok list) :
    ∃ pieces, (vs.filter fun v => !v.isNull).mapM d.member = .ok pieces ∧
      list = .text "(" :: Fragment.joined ", " (pieces.map fun p => [p]) ++ [.text ")"] := by
  obtain ⟨pieces, written, result⟩ := Outcome.bind_eq_ok.mp ok
  refine ⟨pieces, written, ?_⟩
  split at result
  · cases result
  · exact (Outcome.pure_eq_ok.mp result).symm

namespace Filter

variable {f : Filter} {c : Condition} {operand : Operand}

/-! ### Equations -/

/-- The body of a leaf, by shape. -/
theorem leafBody_eq :
    f.leafBody c = match c.predicate.shape with
      | .marker => .ok none
      | .script => f.scriptBody c
      | .nullCheck => f.nullCheckBody c
      | _ => f.predicateBody c := by
  unfold leafBody
  cases c.predicate <;> rfl

/-- What follows the key of a leaf, by shape. -/
theorem rest_eq (shape : c.predicate.shape.comparesKey) :
    f.rest c operand = match c.predicate.shape with
      | .membership => do
        let list ← f.dialect.memberList (← members c operand)
        return .text c.predicate.sql :: .text " " :: list
      | .between =>
        match operand with
        | .range min max => .ok [.text "BETWEEN ", .bound min, .text " AND ", .bound max]
        | _ => .error (.syntaxFault (.needsRange c.key))
      | _ =>
        match operand with
        | .value v =>
          match inline? v with
          | some expression => do
            let resolved ← f.scope.script expression
            return [.text c.predicate.sql, .text " ", .text resolved]
          | none => .ok [.text c.predicate.sql, .text " ", .bound v]
        | _ => .error (.syntaxFault (.needsValue c.predicate c.key)) := by
  unfold rest
  generalize c.predicate = p at shape
  cases p with
  | group | groupBegin | groupEnd | script | isNull | isNotNull => cases shape
  | _ => rfl

theorem leafBody_marker (shape : c.predicate.shape = .marker) : f.leafBody c = .ok none := by
  rw [leafBody_eq, shape]

theorem leafBody_script (shape : c.predicate.shape = .script) : f.leafBody c = f.scriptBody c := by
  rw [leafBody_eq, shape]

theorem leafBody_nullCheck (shape : c.predicate.shape = .nullCheck) :
    f.leafBody c = f.nullCheckBody c := by
  rw [leafBody_eq, shape]

theorem leafBody_comparesKey (shape : c.predicate.shape.comparesKey) :
    f.leafBody c = f.predicateBody c := by
  rw [leafBody_eq]
  cases kind : c.predicate.shape with
  | membership | between | single => rfl
  | marker | script | nullCheck => rw [kind] at shape; cases shape

theorem rest_membership (shape : c.predicate.shape = .membership) :
    f.rest c operand = (do
      let list ← f.dialect.memberList (← members c operand)
      return .text c.predicate.sql :: .text " " :: list) := by
  rw [rest_eq (by rw [shape]; rfl), shape]

theorem rest_range (shape : c.predicate.shape = .between) (min max : Value) :
    f.rest c (.range min max) =
      .ok [.text "BETWEEN ", .bound min, .text " AND ", .bound max] := by
  rw [rest_eq (by rw [shape]; rfl), shape]

theorem rest_of_not_range (shape : c.predicate.shape = .between)
    (other : ∀ min max, operand ≠ .range min max) :
    f.rest c operand = .error (.syntaxFault (.needsRange c.key)) := by
  rw [rest_eq (by rw [shape]; rfl), shape]
  cases operand with
  | range min max => exact absurd rfl (other min max)
  | value | list => rfl

theorem rest_expression (shape : c.predicate.shape = .single) {v : Value} {e : String}
    (inlined : inline? v = some e) :
    f.rest c (.value v) = (do
      let resolved ← f.scope.script e
      return [.text c.predicate.sql, .text " ", .text resolved]) := by
  rw [rest_eq (by rw [shape]; rfl), shape]
  simp only [inlined]

theorem rest_value (shape : c.predicate.shape = .single) {v : Value}
    (isBound : inline? v = none) :
    f.rest c (.value v) = .ok [.text c.predicate.sql, .text " ", .bound v] := by
  rw [rest_eq (by rw [shape]; rfl), shape]
  simp only [isBound]

theorem rest_of_not_value (shape : c.predicate.shape = .single)
    (other : ∀ v, operand ≠ .value v) :
    f.rest c operand = .error (.syntaxFault (.needsValue c.predicate c.key)) := by
  rw [rest_eq (by rw [shape]; rfl), shape]
  cases operand with
  | value v => exact absurd rfl (other v)
  | list | range => rfl

theorem scriptBody_eq :
    f.scriptBody c = (do
      let script ← f.scope.script c.key
      if script.isEmpty then return none
      return some [.script script c.scriptValues]) := by
  rfl

/-! ### Bodies -/

/-- What follows the resolved key of a leaf that compares it. -/
inductive EmitsRest (f : Filter) (c : Condition) : Operand → Fragment → Prop where
  | members {operand : Operand} {vs : List Value} {list : Fragment}
    (shape : c.predicate.shape = .membership) (are : members c operand = .ok vs)
    (written : f.dialect.memberList vs = .ok list) :
    EmitsRest f c operand (.text c.predicate.sql :: .text " " :: list)
  | range {min max : Value} (shape : c.predicate.shape = .between) :
    EmitsRest f c (.range min max) [.text "BETWEEN ", .bound min, .text " AND ", .bound max]
  | expression {v : Value} {e sql : String} (shape : c.predicate.shape = .single)
    (inlined : inline? v = some e) (resolved : f.scope.script e = .ok sql) :
    EmitsRest f c (.value v) [.text c.predicate.sql, .text " ", .text sql]
  | value {v : Value} (shape : c.predicate.shape = .single) (isBound : inline? v = none) :
    EmitsRest f c (.value v) [.text c.predicate.sql, .text " ", .bound v]

/-- The bodies of leaves. -/
inductive Emits (f : Filter) (c : Condition) : Fragment → Prop where
  | script {sql : String} (shape : c.predicate.shape = .script)
    (resolved : f.scope.script c.key = .ok sql) (some : sql ≠ "") :
    Emits f c [.script sql c.scriptValues]
  | nullCheck {sql : String} (shape : c.predicate.shape = .nullCheck)
    (some : Text.isBlankText (checked c) = false)
    (resolved : f.scope.script (checked c) = .ok sql) :
    Emits f c [.text sql, .text " ", .text c.predicate.sql]
  | comparison {operand : Operand} {key : String} {rest : Fragment}
    (shape : c.predicate.shape.comparesKey) (given : c.operand = some operand)
    (present : operand.isAbsent = false) (some : Text.isBlankText c.key = false)
    (resolved : f.scope.script c.key = .ok key) (follows : EmitsRest f c operand rest) :
    Emits f c (.text key :: .text " " :: rest)

theorem rest_eq_ok_iff {g : Fragment} (shape : c.predicate.shape.comparesKey) :
    f.rest c operand = .ok g ↔ EmitsRest f c operand g := by
  constructor
  · intro ok
    cases kind : c.predicate.shape with
    | membership =>
      rw [rest_membership kind] at ok
      obtain ⟨vs, are, ok⟩ := Outcome.bind_eq_ok.mp ok
      obtain ⟨list, written, ok⟩ := Outcome.bind_eq_ok.mp ok
      rw [← Outcome.pure_eq_ok.mp ok]
      exact .members kind are written
    | between =>
      cases operand with
      | range min max =>
        rw [rest_range kind] at ok
        rw [← Except.ok.inj ok]
        exact .range kind
      | value v => rw [rest_of_not_range kind (by simp)] at ok; cases ok
      | list vs => rw [rest_of_not_range kind (by simp)] at ok; cases ok
    | single =>
      cases operand with
      | value v =>
        cases inlined : inline? v with
        | none =>
          rw [rest_value kind inlined] at ok
          rw [← Except.ok.inj ok]
          exact .value kind inlined
        | some e =>
          rw [rest_expression kind inlined] at ok
          obtain ⟨sql, resolved, ok⟩ := Outcome.bind_eq_ok.mp ok
          rw [← Outcome.pure_eq_ok.mp ok]
          exact .expression kind inlined resolved
      | list vs => rw [rest_of_not_value kind (by simp)] at ok; cases ok
      | range min max => rw [rest_of_not_value kind (by simp)] at ok; cases ok
    | marker => rw [kind] at shape; cases shape
    | script => rw [kind] at shape; cases shape
    | nullCheck => rw [kind] at shape; cases shape
  · intro emits
    -- each case carries the successes of its steps
    cases emits with
    | members shape are written =>
      rw [rest_membership shape]
      exact Outcome.bind_eq_ok.mpr ⟨_, are, Outcome.bind_eq_ok.mpr ⟨_, written, rfl⟩⟩
    | range shape => exact rest_range shape _ _
    | expression shape inlined resolved =>
      rw [rest_expression shape inlined]
      exact Outcome.bind_eq_ok.mpr ⟨_, resolved, rfl⟩
    | value shape isBound => exact rest_value shape isBound

/-- The body of a leaf is one of the cases. -/
theorem leafBody_eq_some_iff {b : Fragment} : f.leafBody c = .ok (some b) ↔ f.Emits c b := by
  constructor
  · intro ok
    cases shape : c.predicate.shape with
    | marker => rw [leafBody_marker shape] at ok; cases ok
    | script =>
      rw [leafBody_script shape, scriptBody_eq] at ok
      obtain ⟨sql, resolved, ok⟩ := Outcome.bind_eq_ok.mp ok
      split at ok
      · cases ok
      · next given =>
        rw [← Option.some.inj (Outcome.pure_eq_ok.mp ok)]
        exact .script shape resolved (by simpa using given)
    | nullCheck =>
      rw [leafBody_nullCheck shape, nullCheckBody] at ok
      split at ok
      · cases ok
      · next given =>
        obtain ⟨sql, resolved, ok⟩ := Outcome.bind_eq_ok.mp ok
        rw [← Option.some.inj (Outcome.pure_eq_ok.mp ok)]
        exact .nullCheck shape (by simpa using given) resolved
    | _ =>
      have compares : c.predicate.shape.comparesKey := by rw [shape]; rfl
      rw [leafBody_comparesKey compares, predicateBody] at ok
      cases given : c.operand with
      | none => rw [given] at ok; cases ok
      | some operand =>
        simp only [given] at ok
        split at ok
        · cases ok
        · next present =>
          obtain ⟨key, resolved, ok⟩ := Outcome.bind_eq_ok.mp ok
          obtain ⟨rest, follows, ok⟩ := Outcome.bind_eq_ok.mp ok
          rw [← Option.some.inj (Outcome.pure_eq_ok.mp ok)]
          rw [Bool.or_eq_true, not_or, Bool.not_eq_true, Bool.not_eq_true] at present
          exact .comparison compares given present.1 present.2 resolved
            ((rest_eq_ok_iff compares).mp follows)
  · intro emits
    cases emits with
    | script shape resolved given =>
      rw [leafBody_script shape, scriptBody_eq, resolved]
      simp [bind, Except.bind, given, pure, Except.pure]
    | nullCheck shape given resolved =>
      rw [leafBody_nullCheck shape, nullCheckBody, given, resolved]
      rfl
    | comparison compares given present some resolved follows =>
      rw [leafBody_comparesKey compares, predicateBody, given]
      simp only [present, some, resolved, (rest_eq_ok_iff compares).mpr follows]
      rfl

end Filter

end BoundQuery
