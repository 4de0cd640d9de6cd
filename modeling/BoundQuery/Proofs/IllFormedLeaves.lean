import BoundQuery.Proofs.Faults
import BoundQuery.Proofs.Positions

/-!
# The first ill-formed leaf

Rendering walks the leaves in document order, whatever the groups around them, and stops at the
first one that is ill-formed. The values of the leaves before it stay bound; it binds none of its
own, since a leaf binds only what its finished body holds.

What makes a leaf ill-formed is said here without the renderer: a script that does not resolve, or
an operand that its predicate cannot take.

## Main definitions

* `Condition.Compares`, the leaves that say something about a key
* `Filter.Misfit`, the operands that a predicate cannot take, with their errors
* `Filter.IllFormed`, the ill-formed leaves, with their errors
* `Filter.halt?`, where a walk over leaves stops, and what is bound then

## Main results

* `Filter.leafBody_eq_error_iff` — a leaf has no body exactly when it is ill-formed
* `Filter.fault?_terms_eq_halt?` — rendering stops where the walk over the leaves does
* `Filter.renderOnto_append` — what a list binds behind another
* `Filter.renderOnto_leaves` — success, the error and the bound values, read off the leaves
-/

namespace BoundQuery

open Outcome

/-! ### Lists of members -/

namespace Dialect

variable {d : Dialect} {vs : List Value}

/-- Members are written out only where a literal exists, so each member has its piece. -/
theorem exists_member (d : Dialect) (v : Value) : ∃ piece, d.member v = .ok piece := by
  rw [member]
  by_cases safe : Literal.isSafe v
  · rw [if_pos safe]
    cases v with
    | int i => exact ⟨_, rfl⟩
    | bool b => exact ⟨_, rfl⟩
    | float x =>
      cases x with
      | finite s m e => exact ⟨_, rfl⟩
      | nan | infinity => cases safe
    | null | constant | moment | date | text | json => cases safe
  · rw [if_neg safe]
    exact ⟨_, rfl⟩

/-- The list behind IN fails exactly when all its members are null. -/
theorem memberList_eq_error_iff {error : CompileError} :
    d.memberList vs = .error error ↔
      (∀ v ∈ vs, v.isNull) ∧ error = .syntaxFault .emptyList := by
  obtain ⟨pieces, written⟩ : ∃ pieces, (vs.filter fun v => !v.isNull).mapM d.member = .ok pieces := by
    choose piece isPiece using d.exists_member
    exact ⟨_, mapM_eq_map fun v _ => isPiece v⟩
  have none : pieces.isEmpty ↔ ∀ v ∈ vs, v.isNull := by
    have lengths := (mapM_eq_ok_iff.mp written).length_eq
    rw [List.isEmpty_iff_length_eq_zero, ← lengths, List.length_eq_zero_iff, List.filter_eq_nil_iff]
    simp
  rw [memberList, written, ok_bind, ← none]
  by_cases empty : pieces.isEmpty
  · rw [if_pos empty]
    refine ⟨fun failed => ⟨empty, (Except.error.inj failed).symm⟩, ?_⟩
    rintro ⟨-, rfl⟩
    rfl
  · rw [if_neg empty]
    refine iff_of_false ?_ fun h => empty h.1
    rintro ⟨⟩

end Dialect

/-! ### Leaves -/

theorem Condition.leaves_append (cs ds : List Condition) :
    leaves (cs ++ ds) = leaves cs ++ leaves ds := by
  induction cs with
  | nil => simp
  | cons c cs ih => rw [List.cons_append, leaves, leaves, ih, List.append_assoc]

/-- A leaf that compares its key with an operand. One without an operand, with a null for it, or
with a blank key is passed over instead. -/
structure Condition.Compares (c : Condition) (operand : Operand) : Prop where
  shape : c.predicate.shape.comparesKey
  given : c.operand = some operand
  present : operand.isAbsent = false
  key : Text.isBlankText c.key = false

namespace Filter

/-- The operands that a predicate cannot take, with their errors. -/
inductive Misfit (f : Filter) (c : Condition) : Operand → CompileError → Prop where
  | notRange {operand : Operand} (shape : c.predicate.shape = .between)
    (other : ∀ min max, operand ≠ .range min max) :
    Misfit f c operand (.syntaxFault (.needsRange c.key))
  | notValue {operand : Operand} (shape : c.predicate.shape = .single)
    (other : ∀ v, operand ≠ .value v) :
    Misfit f c operand (.syntaxFault (.needsValue c.predicate c.key))
  | expression {v : Value} {e : String} {error : CompileError} (shape : c.predicate.shape = .single)
    (inlined : inline? v = some e) (unresolved : f.scope.script e = .error error) :
    Misfit f c (.value v) error
  | range {min max : Value} (shape : c.predicate.shape = .membership) :
    Misfit f c (.range min max) (.syntaxFault (.needsList c.predicate c.key))
  | noMember {operand : Operand} (shape : c.predicate.shape = .membership)
    (other : ∀ min max, operand ≠ .range min max) (nulls : ∀ v ∈ operand.values, v.isNull) :
    Misfit f c operand (.syntaxFault .emptyList)

/-- The ill-formed leaves, with their errors. A key that does not resolve is reported before an
operand that does not fit. -/
inductive IllFormed (f : Filter) (c : Condition) : CompileError → Prop where
  | script {error : CompileError} (shape : c.predicate.shape = .script)
    (unresolved : f.scope.script c.key = .error error) : IllFormed f c error
  | nullCheck {error : CompileError} (shape : c.predicate.shape = .nullCheck)
    (some : Text.isBlankText (checked c) = false)
    (unresolved : f.scope.script (checked c) = .error error) : IllFormed f c error
  | key {operand : Operand} {error : CompileError} (compares : c.Compares operand)
    (unresolved : f.scope.script c.key = .error error) : IllFormed f c error
  | operand {operand : Operand} {key : String} {error : CompileError}
    (compares : c.Compares operand) (resolved : f.scope.script c.key = .ok key)
    (misfit : f.Misfit c operand error) : IllFormed f c error

variable {f : Filter} {c : Condition} {cs : List Condition} {operand : Operand}
  {error : CompileError}

theorem rest_eq_error_iff (compares : c.predicate.shape.comparesKey) :
    f.rest c operand = .error error ↔ f.Misfit c operand error := by
  constructor
  · intro failed
    cases shape : c.predicate.shape with
    | membership =>
      rw [rest_membership shape] at failed
      cases operand with
      | range min max =>
        rw [← Except.error.inj failed]
        exact .range shape
      | value v =>
        obtain ⟨nulls, rfl⟩ := Dialect.memberList_eq_error_iff.mp (bind_pure_eq_error.mp failed)
        exact .noMember shape (by simp) nulls
      | list vs =>
        obtain ⟨nulls, rfl⟩ := Dialect.memberList_eq_error_iff.mp (bind_pure_eq_error.mp failed)
        exact .noMember shape (by simp) nulls
    | between =>
      by_cases isRange : ∃ min max, operand = .range min max
      · obtain ⟨min, max, rfl⟩ := isRange
        rw [rest_range shape] at failed
        cases failed
      · push Not at isRange
        rw [rest_of_not_range shape isRange] at failed
        rw [← Except.error.inj failed]
        exact .notRange shape isRange
    | single =>
      by_cases isValue : ∃ v, operand = .value v
      · obtain ⟨v, rfl⟩ := isValue
        cases inlined : inline? v with
        | none =>
          rw [rest_value shape inlined] at failed
          cases failed
        | some e =>
          rw [rest_expression shape inlined] at failed
          exact .expression shape inlined (bind_pure_eq_error.mp failed)
      · push Not at isValue
        rw [rest_of_not_value shape isValue] at failed
        rw [← Except.error.inj failed]
        exact .notValue shape isValue
    | marker | script | nullCheck => rw [shape] at compares; cases compares
  · intro misfit
    cases misfit with
    | notRange shape other => exact rest_of_not_range shape other
    | notValue shape other => exact rest_of_not_value shape other
    | expression shape inlined unresolved =>
      rw [rest_expression shape inlined, bind_pure_eq_error]
      exact unresolved
    | range shape =>
      rw [rest_membership shape]
      rfl
    | noMember shape other nulls =>
      have failed := (Dialect.memberList_eq_error_iff (d := f.dialect)).mpr ⟨nulls, rfl⟩
      rw [rest_membership shape]
      -- a single value counts as a list of one, and a range is not at issue
      cases operand with
      | range min max => exact absurd rfl (other min max)
      | value v => exact bind_pure_eq_error.mpr failed
      | list vs => exact bind_pure_eq_error.mpr failed

theorem predicateBody_eq_error_iff (compares : c.predicate.shape.comparesKey) :
    f.predicateBody c = .error error ↔ ∃ operand, c.Compares operand ∧
      (f.scope.script c.key = .error error ∨
        ∃ key, f.scope.script c.key = .ok key ∧ f.Misfit c operand error) := by
  constructor
  · intro failed
    rw [predicateBody] at failed
    cases given : c.operand with
    | none =>
      rw [given] at failed
      cases failed
    | some operand =>
      rw [given] at failed
      dsimp only at failed
      split at failed
      · cases failed
      · next kept =>
        rw [Bool.or_eq_true, not_or, Bool.not_eq_true, Bool.not_eq_true] at kept
        rw [bind_eq_error] at failed
        simp only [bind_pure_eq_error, rest_eq_error_iff compares] at failed
        exact ⟨operand, ⟨compares, given, kept.1, kept.2⟩, failed⟩
  · rintro ⟨operand, compared, failed⟩
    rw [predicateBody, compared.given]
    dsimp only
    rw [compared.present, compared.key, if_neg (by simp), bind_eq_error]
    simp only [bind_pure_eq_error, rest_eq_error_iff compares]
    exact failed

/-- A leaf has no body exactly when it is ill-formed. -/
theorem leafBody_eq_error_iff : f.leafBody c = .error error ↔ f.IllFormed c error := by
  constructor
  · intro failed
    cases shape : c.predicate.shape with
    | marker =>
      rw [leafBody_marker shape] at failed
      cases failed
    | script =>
      rw [leafBody_script shape, scriptBody_eq] at failed
      rcases bind_eq_error.mp failed with unresolved | ⟨sql, -, failed⟩
      · exact .script shape unresolved
      · split at failed <;> cases failed
    | nullCheck =>
      rw [leafBody_nullCheck shape, nullCheckBody] at failed
      split at failed
      · cases failed
      · next given =>
        exact .nullCheck shape (by simpa using given) (bind_pure_eq_error.mp failed)
    | membership | between | single =>
      have compares : c.predicate.shape.comparesKey := by rw [shape]; rfl
      rw [leafBody_comparesKey compares, predicateBody_eq_error_iff compares] at failed
      obtain ⟨operand, compared, unresolved | ⟨key, resolved, misfit⟩⟩ := failed
      · exact .key compared unresolved
      · exact .operand compared resolved misfit
  · intro illFormed
    cases illFormed with
    | script shape unresolved =>
      rw [leafBody_script shape, scriptBody_eq, unresolved]
      rfl
    | nullCheck shape given unresolved =>
      rw [leafBody_nullCheck shape, nullCheckBody, given, unresolved]
      rfl
    | key compared unresolved =>
      rw [leafBody_comparesKey compared.shape, predicateBody_eq_error_iff compared.shape]
      exact ⟨_, compared, .inl unresolved⟩
    | operand compared resolved misfit =>
      rw [leafBody_comparesKey compared.shape, predicateBody_eq_error_iff compared.shape]
      exact ⟨_, compared, .inr ⟨_, resolved, misfit⟩⟩

end Filter

/-! ### Walks over leaves -/

/-- A failure behind values bound earlier. -/
def Halt.behind (values : List Value) (h : Halt) : Halt :=
  ⟨h.error, values ++ h.bound⟩

theorem Halt.behind_nil : Halt.behind [] = id := rfl

theorem Halt.behind_append (us vs : List Value) :
    Halt.behind (us ++ vs) = Halt.behind us ∘ Halt.behind vs := by
  funext h
  simp [behind]

namespace Filter

/-- Where a walk over leaves stops: at the first that is ill-formed, with the values of the leaves
before it bound. -/
def halt? (f : Filter) : List Condition → Option Halt
  | [] => none
  | c :: cs =>
    match fault? (f.leafBody c) with
    | some error => some ⟨error, []⟩
    | none => (f.halt? cs).map (Halt.behind (f.leafValues c))

variable {f : Filter} {c : Condition} {cs ds : List Condition} {error : CompileError}

theorem halt?_of_illFormed (illFormed : f.IllFormed c error) :
    f.halt? (c :: cs) = some ⟨error, []⟩ := by
  rw [halt?, fault?_eq_some.mpr (leafBody_eq_error_iff.mpr illFormed)]

theorem halt?_of_wellFormed (wellFormed : ∀ e, ¬ f.IllFormed c e) :
    f.halt? (c :: cs) = (f.halt? cs).map (Halt.behind (f.leafValues c)) := by
  have none : fault? (f.leafBody c) = none := by
    rw [Option.eq_none_iff_forall_ne_some]
    intro e faulty
    exact wellFormed e (leafBody_eq_error_iff.mp (fault?_eq_some.mp faulty))
  rw [halt?, none]

theorem halt?_append : f.halt? (cs ++ ds) =
    (f.halt? cs).or ((f.halt? ds).map (Halt.behind (cs.flatMap f.leafValues))) := by
  induction cs with
  | nil => simp [halt?, Halt.behind_nil]
  | cons c cs ih =>
    by_cases illFormed : ∃ e, f.IllFormed c e
    · obtain ⟨e, illFormed⟩ := illFormed
      rw [List.cons_append, halt?_of_illFormed illFormed, halt?_of_illFormed illFormed,
        Option.some_or]
    · push Not at illFormed
      rw [List.cons_append, halt?_of_wellFormed illFormed, halt?_of_wellFormed illFormed, ih,
        List.flatMap_cons, Halt.behind_append, Option.map_or, Option.map_map]

/-- The walk passes well-formed leaves. -/
theorem halt?_eq_none_iff : f.halt? cs = none ↔ ∀ c ∈ cs, ∀ e, ¬ f.IllFormed c e := by
  induction cs with
  | nil => simp [halt?]
  | cons c cs ih =>
    rw [List.forall_mem_cons, ← ih]
    by_cases illFormed : ∃ e, f.IllFormed c e
    · obtain ⟨e, illFormed⟩ := illFormed
      simp only [halt?_of_illFormed illFormed, reduceCtorEq, false_iff, not_and]
      intro wellFormed
      exact absurd illFormed (wellFormed e)
    · push Not at illFormed
      simp [halt?_of_wellFormed illFormed, illFormed]

/-! ### Rendering -/

/-- Behind a condition that is rendered, a forest fails as the others do, with its values in
front. -/
theorem fault?_terms_of_ok {b : Option Fragment} (ok : f.body c = .ok b) :
    fault? (f.terms (c :: cs)) = (fault? (f.terms cs)).map (Halt.behind (f.valuesOf [c])) := by
  have alone : f.terms [c] = .ok ((b.map (⟨c.conjunction, ·⟩)).toList ++ []) :=
    terms_cons_eq_ok.mpr ⟨b, [], ok, terms_nil, rfl⟩
  rw [← values_terms alone, terms, ok]
  cases b with
  | none =>
    cases f.terms cs with
    | error h => rfl
    | ok ts => rfl
  | some b =>
    cases f.terms cs with
    | error h => simp [Halt.behind]
    | ok ts => rfl

/-- Rendering stops where the walk over the leaves does, whatever the groups. -/
theorem fault?_terms_eq_halt? : fault? (f.terms cs) = f.halt? (Condition.leaves cs) := by
  induction cs using Condition.forest_induction with
  | nil =>
    rw [terms_nil, Condition.leaves_nil]
    rfl
  | leaf c cs isLeaf ih =>
    have values : f.valuesOf [c] = f.leafValues c := by
      rw [valuesOf, Condition.leaves_leaf isLeaf, Condition.leaves_nil, List.flatMap_singleton]
    rw [Condition.leaves_leaf isLeaf, halt?]
    cases result : f.leafBody c with
    | error e =>
      rw [terms, body_leaf isLeaf, result]
      rfl
    | ok b =>
      have ok : f.body c = .ok b := by
        rw [body_leaf isLeaf, result]
        rfl
      rw [fault?_terms_of_ok ok, ih, values, fault?_ok]
  | group c cs isGroup inner ih =>
    have values : f.valuesOf [c] = (Condition.leaves c.children).flatMap f.leafValues := by
      rw [valuesOf, Condition.leaves_group isGroup, Condition.leaves_nil, List.append_nil]
    rw [Condition.leaves_group isGroup, halt?_append, ← inner, ← ih, ← values]
    cases result : f.terms c.children with
    | error h =>
      rw [terms, body_group isGroup, result]
      rfl
    | ok ts =>
      have ok : f.body c = .ok (enclosed ts) := by
        rw [body_group isGroup, result]
        rfl
      rw [fault?_terms_of_ok ok, fault?_ok, Option.none_or]

/-- The values bound behind rendered conditions, as the walk over the leaves gives them. -/
theorem renderOnto_of_halt?_none (none : f.halt? (Condition.leaves cs) = none) (p : Position)
    (bound : List Value) : ∃ text, f.renderOnto p cs bound = (.ok text, bound ++ f.valuesOf cs) := by
  rw [← fault?_terms_eq_halt?] at none
  cases result : f.terms cs with
  | error h =>
    rw [result] at none
    cases none
  | ok ts => exact ⟨_, by rw [renderOnto_of_ok result, values_terms result]⟩

theorem renderOnto_of_halt?_some {h : Halt} (stops : f.halt? (Condition.leaves cs) = some h)
    (p : Position) (bound : List Value) :
    f.renderOnto p cs bound = (.error h.error, bound ++ h.bound) := by
  rw [← fault?_terms_eq_halt?, fault?_eq_some] at stops
  exact renderOnto_of_error stops p bound

/-- A list behind another: where the first is rendered, the second goes on from the values bound
then, and where it fails, nothing more is bound. -/
theorem renderOnto_append (p q : Position) (bound : List Value) :
    (f.renderOnto p (cs ++ ds) bound).2 =
      match f.renderOnto p cs bound with
      | (.ok _, values) => (f.renderOnto q ds values).2
      | (.error _, values) => values := by
  have whole : f.halt? (Condition.leaves (cs ++ ds)) =
      (f.halt? (Condition.leaves cs)).or
        ((f.halt? (Condition.leaves ds)).map (Halt.behind (f.valuesOf cs))) := by
    rw [Condition.leaves_append, halt?_append, valuesOf]
  cases first : f.halt? (Condition.leaves cs) with
  | some h =>
    rw [first, Option.some_or] at whole
    rw [renderOnto_of_halt?_some first, renderOnto_of_halt?_some whole]
  | none =>
    obtain ⟨text, rendered⟩ := renderOnto_of_halt?_none first p bound
    rw [rendered]
    rw [first, Option.none_or] at whole
    -- from here on the walk over both lists is the one over the second, behind the first's values
    cases second : f.halt? (Condition.leaves ds) with
    | some h =>
      rw [second, Option.map_some] at whole
      simp only [renderOnto_of_halt?_some second, renderOnto_of_halt?_some whole, Halt.behind,
        List.append_assoc]
    | none =>
      rw [second, Option.map_none] at whole
      obtain ⟨_, both⟩ := renderOnto_of_halt?_none whole p bound
      obtain ⟨_, others⟩ := renderOnto_of_halt?_none second q (bound ++ f.valuesOf cs)
      simp only [both, others]
      simp only [valuesOf, Condition.leaves_append, List.flatMap_append, List.append_assoc]

/-- Conditions are rendered exactly when no leaf is ill-formed, and then the values of all leaves
are bound in document order. Otherwise rendering fails with the error of the first ill-formed leaf,
and the values of the leaves before it are bound. A list behind another binds its values behind
those of the first, if there is no failure before. -/
theorem renderOnto_leaves (f : Filter) (p : Position) (cs : List Condition) (bound : List Value) :
    ((∃ text, (f.renderOnto p cs bound).1 = .ok text) ↔
        ∀ c ∈ Condition.leaves cs, ∀ error, ¬ f.IllFormed c error) ∧
      (∀ before c after error, Condition.leaves cs = before ++ c :: after →
        (∀ d ∈ before, ∀ e, ¬ f.IllFormed d e) → f.IllFormed c error →
        f.renderOnto p cs bound = (.error error, bound ++ before.flatMap f.leafValues)) ∧
      ((∀ c ∈ Condition.leaves cs, ∀ error, ¬ f.IllFormed c error) →
        (f.renderOnto p cs bound).2 = bound ++ (Condition.leaves cs).flatMap f.leafValues) ∧
      ∀ q ds, (f.renderOnto p (cs ++ ds) bound).2 =
        match f.renderOnto p cs bound with
        | (.ok _, values) => (f.renderOnto q ds values).2
        | (.error _, values) => values := by
  simp only [← halt?_eq_none_iff]
  refine ⟨⟨?_, ?_⟩, ?_, ?_, ?_⟩
  · rintro ⟨text, ok⟩
    rw [Option.eq_none_iff_forall_ne_some]
    intro h stops
    rw [renderOnto_of_halt?_some stops] at ok
    cases ok
  · intro none
    obtain ⟨text, rendered⟩ := renderOnto_of_halt?_none none p bound
    exact ⟨text, by rw [rendered]⟩
  · intro before c after error parts earlier illFormed
    have stops : f.halt? (Condition.leaves cs) =
        some (Halt.behind (before.flatMap f.leafValues) ⟨error, []⟩) := by
      rw [parts, halt?_append, earlier, halt?_of_illFormed illFormed]
      rfl
    rw [renderOnto_of_halt?_some stops]
    simp [Halt.behind]
  · intro none
    obtain ⟨text, rendered⟩ := renderOnto_of_halt?_none none p bound
    rw [rendered, valuesOf]
  · intro q ds
    exact renderOnto_append p q bound

/-- In a group behind a value, a BETWEEN without a range fails, with the value of the leaf before it
bound and its own not. -/
theorem renderOnto_leaves_between :
    (⟨⟨.empty, ⟨"Order", "t_order", .empty⟩, .empty⟩, .mysql⟩ : Filter).renderOnto .whereFirst
        [Condition.group [Condition.withValue .eq "id" (.int 7),
          Condition.withValue .between "id" (.int 8)]] [.int 6] =
      (.error (.syntaxFault (.needsRange "id")), [.int 6, .int 7]) := by
  obtain ⟨-, failures, -, -⟩ := renderOnto_leaves
    ⟨⟨.empty, ⟨"Order", "t_order", .empty⟩, .empty⟩, .mysql⟩ .whereFirst
    [Condition.group [Condition.withValue .eq "id" (.int 7),
      Condition.withValue .between "id" (.int 8)]] [.int 6]
  refine failures [Condition.withValue .eq "id" (.int 7)]
    (Condition.withValue .between "id" (.int 8)) [] _ rfl ?_ ?_
  · intro d member e illFormed
    rw [List.mem_singleton.mp member, ← leafBody_eq_error_iff] at illFormed
    cases illFormed
  · exact .operand ⟨rfl, rfl, rfl, rfl⟩ rfl (.notRange rfl (by rintro min max ⟨⟩))

end Filter

end BoundQuery
