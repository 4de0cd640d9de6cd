import BoundQuery.Proofs.Forest
import BoundQuery.Proofs.Leaves
import BoundQuery.Proofs.Placeholders

/-!
# The values that conditions bind

The values of rendered conditions, read off the conditions themselves: those of the leaves, in
document order. A leaf that gives no text binds nothing.

## Main definitions

* `Filter.leafValues`, the values of a leaf
* `Filter.valuesOf`, the values of conditions

## Main results

* `Filter.values_compile` — rendered conditions bind the values of their leaves in document order
-/

namespace BoundQuery

namespace Filter

/-- The values that a leaf binds. Nulls and what needs no quotes are no members of a bound list, and
an expression takes the place of a value. -/
def leafValues (f : Filter) (c : Condition) : List Value :=
  if c.predicate.shape = .script then
    if (f.scope.script c.key).toOption = some "" then [] else c.scriptValues.map Value.bound
  else if Text.isBlankText c.key then []
  else
    match c.predicate.shape, c.operand with
    | .membership, some operand =>
      ((operand.values.filter fun v => !v.isNull).filter fun v => !Literal.isSafe v).map Value.bound
    | .between, some (.range min max) => [min.bound, max.bound]
    | .single, some (.value v) => if v.isNull || (inline? v).isSome then [] else [v.bound]
    | _, _ => []

/-- The values that conditions bind, leaf by leaf. -/
def valuesOf (f : Filter) (cs : List Condition) : List Value :=
  (Condition.leaves cs).flatMap f.leafValues

end Filter

/-! ### Lists of members -/

namespace Dialect

variable {d : Dialect} {vs : List Value}

/-- A member that is not written out is bound. -/
theorem values_member {v : Value} {piece : Piece} (ok : d.member v = .ok piece) :
    piece.values = if Literal.isSafe v then [] else [v.bound] := by
  rw [member] at ok
  split at ok
  · next safe =>
    obtain ⟨text, -, rfl⟩ := Outcome.map_eq_ok.mp ok
    rw [if_pos safe, Piece.values]
  · next bare =>
    rw [← Except.ok.inj ok, if_neg bare, Piece.values]

/-- A list binds its members that are not written out, in order. -/
theorem values_memberList {list : Fragment} (ok : d.memberList vs = .ok list) :
    list.values =
      ((vs.filter fun v => !v.isNull).filter fun v => !Literal.isSafe v).map Value.bound := by
  obtain ⟨pieces, written, rfl⟩ := memberList_eq_ok ok
  have each : List.Forall₂ (fun v piece => (if Literal.isSafe v then [] else [v.bound]) =
      Piece.values piece) (vs.filter fun v => !v.isNull) pieces :=
    (Outcome.mapM_eq_ok_iff.mp written).imp fun v piece ok => (values_member ok).symm
  have inner : Fragment.values (Fragment.joined ", " (pieces.map fun p => [p])) =
      pieces.flatMap Piece.values := by
    rw [Fragment.values_joined, List.flatMap_map]
    simp
  have bound : ∀ us : List Value, (us.flatMap fun v => if Literal.isSafe v then [] else [v.bound]) =
      (us.filter fun v => !Literal.isSafe v).map Value.bound := by
    intro us
    induction us with
    | nil => rfl
    | cons u us ih =>
      by_cases safe : Literal.isSafe u
      · simp [safe, ih]
      · simp [safe, ih]
  rw [List.cons_append, Fragment.values_cons, Fragment.values_append, inner, ← bound,
    List.flatMap_def, List.flatMap_def, Outcome.map_eq_map_of_forall₂ each]
  simp [Piece.values]

end Dialect

namespace Filter

variable {f : Filter} {c : Condition} {cs : List Condition} {b : Fragment}

/-! ### Leaves -/

theorem leafValues_script (shape : c.predicate.shape = .script) :
    f.leafValues c =
      if (f.scope.script c.key).toOption = some "" then [] else c.scriptValues.map Value.bound := by
  rw [leafValues, if_pos shape]

/-- Only scripts and leaves that compare a key bind values. -/
theorem leafValues_of_not_comparesKey (other : c.predicate.shape ≠ .script)
    (shape : ¬ c.predicate.shape.comparesKey) : f.leafValues c = [] := by
  rw [leafValues, if_neg other]
  split
  · rfl
  · cases kind : c.predicate.shape with
    | marker | nullCheck => rfl
    | script => exact absurd kind other
    | membership | between | single => rw [kind] at shape; exact absurd rfl shape

theorem EmitsRest.values {operand : Operand} (given : c.operand = some operand)
    (present : operand.isAbsent = false) (some : Text.isBlankText c.key = false)
    (emits : EmitsRest f c operand b) : b.values = f.leafValues c := by
  cases emits with
  | @members _ vs list shape are written =>
    -- a single value counts as a list of one, a range is refused
    have same : operand.values = vs := by
      cases operand with
      | value v => exact Except.ok.inj are
      | list us => exact Except.ok.inj are
      | range min max => cases are
    simp [leafValues, shape, some, given, same, Piece.values, Dialect.values_memberList written]
  | range shape => simp [leafValues, shape, some, given, Piece.values]
  | expression shape inlined resolved =>
    simp [leafValues, shape, some, given, inlined, Piece.values]
  | value shape isBound =>
    rw [Operand.isAbsent] at present
    simp [leafValues, shape, some, given, isBound, present, Piece.values]

/-- The body of a leaf binds the values of the leaf. -/
theorem Emits.values (emits : f.Emits c b) : b.values = f.leafValues c := by
  cases emits with
  | script shape resolved some =>
    rw [leafValues_script shape, resolved, if_neg]
    · simp [Piece.values]
    · simpa [Except.toOption] using some
  | nullCheck shape _ _ =>
    rw [leafValues_of_not_comparesKey]
    · rfl
    · simp [shape]
    · rw [shape]; exact Bool.false_ne_true
  | comparison shape given present some _ follows =>
    rw [← follows.values given present some]
    rfl

/-- A null as the only operand binds nothing. -/
theorem leafValues_of_absent {operand : Operand} (other : c.predicate.shape ≠ .script)
    (given : c.operand = some operand) (absent : operand.isAbsent) : f.leafValues c = [] := by
  rw [leafValues, if_neg other, given]
  cases operand with
  | value v =>
    rw [Operand.isAbsent] at absent
    cases c.predicate.shape <;> simp [absent, Operand.values]
  | list vs => cases absent
  | range min max => cases absent

/-- A leaf without a body binds nothing. -/
theorem leafValues_of_none (skipped : f.leafBody c = .ok none) : f.leafValues c = [] := by
  -- a script is skipped by its resolved text, a comparison by its operand or its key
  by_cases isScript : c.predicate.shape = .script
  · rw [leafBody_script isScript, scriptBody_eq] at skipped
    obtain ⟨sql, resolved, skipped⟩ := Outcome.bind_eq_ok.mp skipped
    split at skipped
    · next empty =>
      have same : sql = "" := by simpa using empty
      rw [leafValues_script isScript, resolved, same]
      rfl
    · cases skipped
  · by_cases shape : c.predicate.shape.comparesKey
    · rw [leafBody_comparesKey shape, predicateBody] at skipped
      cases given : c.operand with
      | none =>
        rw [leafValues, if_neg isScript, given]
        cases c.predicate.shape <;> simp
      | some operand =>
        rw [given] at skipped
        dsimp only at skipped
        split at skipped
        · next absent =>
          rw [Bool.or_eq_true] at absent
          rcases absent with absent | blank
          · exact leafValues_of_absent isScript given absent
          · rw [leafValues, if_neg isScript, if_pos blank]
        · obtain ⟨key, -, skipped⟩ := Outcome.bind_eq_ok.mp skipped
          obtain ⟨rest, -, skipped⟩ := Outcome.bind_eq_ok.mp skipped
          cases skipped
    · exact leafValues_of_not_comparesKey isScript shape

/-! ### Forests -/

theorem values_joining (c : Option Conjunction) : Fragment.values (Position.joining c) = [] := by
  cases c with
  | none => rfl
  | some c => rfl

/-- Terms in a row bind their values one after the other, wherever they stand. -/
theorem values_lay (p : Position) (ts : List Term) :
    Fragment.values (p.lay ts) = ts.flatMap fun t => Fragment.values t.body := by
  cases ts with
  | nil => rfl
  | cons t ts =>
    have lead : Fragment.values (p.lead t.conjunction) = [] := by
      cases p with
      | whereFirst | groupFirst => rfl
      | whereNext | groupNext | fragment => exact values_joining t.conjunction
    have others : Fragment.values (ts.flatMap fun u =>
        .text " " :: Position.joining u.conjunction ++ u.body) =
        ts.flatMap fun t => Fragment.values t.body := by
      induction ts with
      | nil => rfl
      | cons u ts ih =>
        rw [List.flatMap_cons, List.flatMap_cons, Fragment.values_append, ih]
        simp [Piece.values, values_joining]
    rw [Position.lay, Fragment.values_append, Fragment.values_append, lead, others,
      List.nil_append, List.flatMap_cons]

/-- The terms of conditions bind the values of the leaves in document order. -/
theorem values_terms {ts : List Term} (ok : f.terms cs = .ok ts) :
    ts.flatMap (fun t => Fragment.values t.body) = f.valuesOf cs := by
  induction cs using Condition.forest_induction generalizing ts with
  | nil =>
    rw [terms_nil] at ok
    rw [← Except.ok.inj ok, valuesOf, Condition.leaves_nil]
    rfl
  | leaf c cs isLeaf ih =>
    obtain ⟨b, us, body, rest, rfl⟩ := (terms_leaf isLeaf).mp ok
    rw [valuesOf, Condition.leaves_leaf isLeaf, List.flatMap_cons, List.flatMap_append, ih rest]
    have first : ((b.map (Term.mk c.conjunction)).toList.flatMap fun t => Fragment.values t.body) =
        f.leafValues c := by
      cases b with
      | none => exact (leafValues_of_none body).symm
      | some b => simp [← (leafBody_eq_some_iff.mp body).values]
    rw [first, valuesOf]
  | group c cs isGroup inner ih =>
    obtain ⟨children, us, ofChildren, rest, rfl⟩ := (terms_group isGroup).mp ok
    rw [valuesOf, Condition.leaves_group isGroup, List.flatMap_append, List.flatMap_append, ih rest]
    have first : (((enclosed children).map (Term.mk c.conjunction)).toList.flatMap
        fun t => Fragment.values t.body) = f.valuesOf c.children := by
      -- brackets bind nothing, and a group without terms has no values
      rw [← inner ofChildren]
      cases children with
      | nil => rfl
      | cons t ts =>
        rw [← values_lay .groupFirst (t :: ts)]
        simp [enclosed, Piece.values]
    rw [first, valuesOf, valuesOf]

/-- Rendered conditions bind the values of their leaves in document order. -/
theorem values_compile {p : Position} {g : Fragment} (ok : f.compile p cs = .ok g) :
    g.values = f.valuesOf cs := by
  obtain ⟨ts, ofTerms, rfl⟩ := compile_eq_ok.mp ok
  rw [values_lay, values_terms ofTerms]

end Filter

end BoundQuery
