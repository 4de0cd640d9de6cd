import BoundQuery.Proofs.Forest
import BoundQuery.Proofs.Leaves
import BoundQuery.Proofs.Resolution
import BoundQuery.Proofs.WrittenValues

/-!
# Conditions whose placeholders fit

Placeholders of the caller's own stand in scripts only, one for each value that the script binds.
Then each leaf renders to a body that fits, and so do groups and whole lists of conditions.

## Main definitions

* `Condition.LeafFits`, the rule for one leaf
* `Condition.Fit`, the rule for all leaves of conditions

## Main results

* `Filter.Emits.fits` — the body of a leaf fits
* `Filter.forall_terms` — what leaves have and groups keep, all terms have
* `Filter.fits_compile` — rendered conditions fit
-/

namespace BoundQuery

open Text Placeholder

namespace Condition

/-- Placeholders stand in scripts only, one for each bound value. A script that is blank gives
nothing, whatever its values. -/
def LeafFits (c : Condition) : Prop :=
  match c.predicate.shape with
  | .marker => True
  | .script => isBlankText c.key ∨ count c.key = c.scriptValues.length
  | .nullCheck => Free c.key ∧ ∀ s, c.scalar? = some (.text s) → Free s
  | .membership | .between => Free c.key
  | .single => Free c.key ∧
      ∀ v e, c.operand = some (.value v) → Filter.inline? v = some e → Free e

/-- The placeholders of all leaves fit. -/
def Fit (cs : List Condition) : Prop :=
  ∀ leaf ∈ leaves cs, leaf.LeafFits

variable {c : Condition} {cs : List Condition}

theorem Fit.pruned (fit : Fit cs) (s : Scope) : Fit (s.pruned cs) :=
  fun leaf member => fit leaf (Scope.mem_leaves_pruned member)

theorem LeafFits.key (fits : c.LeafFits) (shape : c.predicate.shape.comparesKey) : Free c.key := by
  rw [LeafFits] at fits
  cases kind : c.predicate.shape with
  | membership | between => rw [kind] at fits; exact fits
  | single => rw [kind] at fits; exact fits.1
  | marker | script | nullCheck => rw [kind] at shape; cases shape

/-- The expression of a null check holds no placeholder. -/
theorem LeafFits.checked (fits : c.LeafFits) (shape : c.predicate.shape = .nullCheck) :
    Free (Filter.checked c) := by
  rw [LeafFits, shape] at fits
  rw [Filter.checked]
  split
  · next s given =>
    split
    · exact fits.1
    · exact fits.2 s given
  · exact fits.1

end Condition

open Fragment

theorem Predicate.free_sql (p : Predicate) : Free p.sql := by
  cases p <;> rfl

theorem Conjunction.free_sql (c : Conjunction) : Free c.sql := by
  cases c <;> rfl

theorem Dialect.fits_member {d : Dialect} {v : Value} {piece : Piece}
    (ok : d.member v = .ok piece) : piece.Fits := by
  rw [member] at ok
  split at ok
  · next safe =>
    obtain ⟨text, written, rfl⟩ := Outcome.map_eq_ok.mp ok
    exact free_of_figures (LiteralStyle.figures_literal safe written)
  · rw [← Except.ok.inj ok]
    exact trivial

theorem Dialect.fits_memberList {d : Dialect} {vs : List Value} {list : Fragment}
    (ok : d.memberList vs = .ok list) : list.Fits := by
  obtain ⟨pieces, written, rfl⟩ := memberList_eq_ok ok
  have each : ∀ piece ∈ pieces, piece.Fits :=
    Outcome.forall_of_mapM written fun v _ piece ok => fits_member ok
  have inner : Fits (joined ", " (pieces.map fun p => [p])) := by
    refine fits_joined rfl fun f member => ?_
    obtain ⟨piece, isPiece, rfl⟩ := List.mem_map.mp member
    exact fits_cons (each piece isPiece) fits_nil
  exact (fits_text (s := "(") rfl inner).append (fits_text (s := ")") rfl fits_nil)

/-! ### Leaves -/

/-- A blank text has no words. -/
theorem Text.words_of_blank {s : String} (blank : isBlankText s) : words s = [] := by
  have none : ∀ cs : List Char, cs.all isBlank → wordsOf cs = [] := by
    intro cs blank
    induction cs with
    | nil => rfl
    | cons c cs ih =>
      rw [List.all_cons, Bool.and_eq_true] at blank
      rw [wordsOf.eq_def]
      simp only [blank.1, if_true]
      exact ih blank.2
  rw [words, none s.toList blank, List.map_nil]

/-- A blank script resolves to nothing. -/
theorem Scope.script_of_blank {s : Scope} {text : String} (blank : isBlankText text) :
    s.script text = .ok "" := by
  rw [script, words_of_blank blank]
  rfl

namespace Filter

variable {f : Filter} {c : Condition} {cs : List Condition} {b : Fragment}

theorem EmitsRest.fits {operand : Operand} (lacks : f.scope.Lacks isMark) (fits : c.LeafFits)
    (given : c.operand = some operand) (emits : EmitsRest f c operand b) : b.Fits := by
  have operator : Free c.predicate.sql := c.predicate.free_sql
  have blank : Free " " := rfl
  cases emits with
  | members shape are written =>
    exact fits_cons operator (fits_cons blank (Dialect.fits_memberList written))
  | range shape =>
    exact fits_text (s := "BETWEEN ") rfl (fits_cons trivial
      (fits_text (s := " AND ") rfl (fits_cons trivial fits_nil)))
  | expression shape inlined resolved =>
    rw [Condition.LeafFits, shape] at fits
    have free := lacks.script_eq_nil markClass resolved (fits.2 _ _ given inlined)
    exact fits_cons operator (fits_cons blank (fits_cons free fits_nil))
  | value shape isBound => exact fits_cons operator (fits_cons blank (fits_cons trivial fits_nil))

/-- The body of a leaf fits. -/
theorem Emits.fits (lacks : f.scope.Lacks isMark) (fits : c.LeafFits) (emits : f.Emits c b) :
    b.Fits := by
  have blank : Free " " := rfl
  cases emits with
  | script shape resolved some =>
    rw [Condition.LeafFits, shape] at fits
    -- a blank script has no body
    rcases fits with empty | enough
    · rw [Scope.script_of_blank empty] at resolved
      exact absurd (Except.ok.inj resolved).symm some
    · refine fits_cons ?_ fits_nil
      rw [count, ← lacks.marks_script markClass resolved] at enough
      exact enough
  | nullCheck shape _ resolved =>
    have free := lacks.script_eq_nil markClass resolved (fits.checked shape)
    exact fits_cons free (fits_cons blank (fits_cons c.predicate.free_sql fits_nil))
  | comparison shape given _ _ resolved follows =>
    have free := lacks.script_eq_nil markClass resolved (fits.key shape)
    exact fits_cons free (fits_cons blank (follows.fits lacks fits given))

/-! ### Forests -/

theorem fits_joining (c : Option Conjunction) : Fits (Position.joining c) := by
  cases c with
  | none => exact fits_nil
  | some c => exact fits_cons c.free_sql (fits_text (s := " ") rfl fits_nil)

theorem fits_lead (p : Position) (c : Option Conjunction) : Fits (p.lead c) := by
  cases p with
  | whereFirst => exact fits_text (s := "WHERE ") rfl fits_nil
  | groupFirst => exact fits_nil
  | whereNext | groupNext | fragment => exact fits_joining c

/-- Terms in a row fit where each of them does. -/
theorem fits_lay {ts : List Term} (each : ∀ t ∈ ts, t.body.Fits) (p : Position) :
    Fits (p.lay ts) := by
  cases ts with
  | nil => exact fits_nil
  | cons t ts =>
    refine ((fits_lead p t.conjunction).append (each t List.mem_cons_self)).append ?_
    intro piece member
    obtain ⟨u, isTerm, member⟩ := List.mem_flatMap.mp member
    have fits : Fits (.text " " :: Position.joining u.conjunction ++ u.body) :=
      (fits_text (s := " ") rfl (fits_joining u.conjunction)).append
        (each u (List.mem_cons_of_mem t isTerm))
    exact fits piece member

theorem fits_enclosed {ts : List Term} (each : ∀ t ∈ ts, t.body.Fits)
    (ok : enclosed ts = some b) : b.Fits := by
  cases ts with
  | nil => cases ok
  | cons t ts =>
    rw [← Option.some.inj ok]
    exact (fits_text (s := "(") rfl (fits_lay each .groupFirst)).append
      (fits_text (s := ")") rfl fits_nil)

/-- What holds of the bodies of all leaves, and of a group where it holds of what the group encloses,
holds of the bodies of all terms. -/
theorem forall_terms {P : Fragment → Prop}
    (ofLeaf : ∀ leaf ∈ Condition.leaves cs, ∀ b, f.Emits leaf b → P b)
    (ofGroup : ∀ ts b, (∀ t ∈ ts, P t.body) → enclosed ts = some b → P b) {ts : List Term}
    (ok : f.terms cs = .ok ts) : ∀ t ∈ ts, P t.body := by
  -- `step` adds the first body, if there is one, to the terms behind it
  have step : ∀ {b : Option Fragment} {c : Option Conjunction} {us : List Term},
      (∀ g, b = some g → P g) → (∀ t ∈ us, P t.body) →
      ∀ t ∈ (b.map (⟨c, ·⟩)).toList ++ us, P t.body := by
    intro b c us first others t member
    rcases List.mem_append.mp member with member | member
    · obtain ⟨g, given, rfl⟩ := Option.map_eq_some_iff.mp (Option.mem_toList.mp member)
      exact first g given
    · exact others t member
  induction cs using Condition.forest_induction generalizing ts with
  | nil =>
    rw [terms_nil] at ok
    rw [← Except.ok.inj ok]
    exact fun t member => absurd member List.not_mem_nil
  | leaf c cs isLeaf ih =>
    obtain ⟨b, us, body, rest, rfl⟩ := (terms_leaf isLeaf).mp ok
    rw [Condition.leaves_leaf isLeaf, List.forall_mem_cons] at ofLeaf
    refine step (fun g given => ?_) (ih ofLeaf.2 rest)
    rw [given] at body
    exact ofLeaf.1 g (leafBody_eq_some_iff.mp body)
  | group c cs isGroup inner ih =>
    obtain ⟨ts, us, children, rest, rfl⟩ := (terms_group isGroup).mp ok
    rw [Condition.leaves_group isGroup, List.forall_mem_append] at ofLeaf
    exact step (fun g given => ofGroup ts g (inner ofLeaf.1 children) given) (ih ofLeaf.2 rest)

/-- The terms of conditions that fit, fit. -/
theorem fits_terms (lacks : f.scope.Lacks isMark) (fit : Condition.Fit cs) {ts : List Term}
    (ok : f.terms cs = .ok ts) : ∀ t ∈ ts, t.body.Fits :=
  forall_terms (P := Fits) (fun leaf member _ emits => emits.fits lacks (fit leaf member))
    (fun _ _ each closed => fits_enclosed each closed) ok

/-- Rendered conditions fit where the conditions do. -/
theorem fits_compile (lacks : f.scope.Lacks isMark) (fit : Condition.Fit cs) {p : Position}
    {g : Fragment} (ok : f.compile p cs = .ok g) : g.Fits := by
  obtain ⟨ts, terms, rfl⟩ := compile_eq_ok.mp ok
  exact fits_lay (fits_terms lacks fit terms) p

end Filter

end BoundQuery
