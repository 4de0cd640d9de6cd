import BoundQuery.Proofs.LegibleConditions
import BoundQuery.Proofs.UnfilteredUpdates

/-!
# Both sides of a comparison

A leaf that compares its key is written as its resolved key, its operator and what the key is
compared with. A catalog that was built has no blank name, so the left side is never blank. The
right side is blank in one case: the operand is a text of the form `#...#` with nothing but blanks
between the marks.

## Main definitions

* `Condition.isHollow`, leaves that compare with a blank expression
* `Filter.Sides`, a body read as a left side, an operator and a right side

## Main results

* `Filter.infix_render` — the body of each leaf stands in the rendered text in one piece
* `Filter.EmitsRest.right` — what stands on the right of an operator
* `Filter.sides_of_render` — comparisons have both sides, except the hollow ones
-/

namespace BoundQuery

open Text

/-! ### Bodies inside rendered text -/

namespace Position

variable {p : Position} {t : Term} {ts : List Term}

/-- The body of each term stands in the row in one piece. -/
theorem infix_lay (member : t ∈ ts) : t.body <:+: p.lay ts := by
  cases ts with
  | nil => cases member
  | cons first others =>
    rw [lay]
    rcases List.mem_cons.mp member with rfl | member
    · exact ⟨_, _, rfl⟩
    · obtain ⟨before, after, rfl⟩ := List.append_of_mem member
      have led : t.body <:+: .text " " :: joining t.conjunction ++ t.body :=
        (List.suffix_append _ _).isInfix
      rw [List.flatMap_append, List.flatMap_cons]
      exact (led.trans (List.infix_append' _ _ _)).trans (List.suffix_append _ _).isInfix

end Position

namespace Filter

variable {f : Filter} {c : Condition} {cs : List Condition} {ts : List Term}

theorem infix_enclosed {b : Fragment} {t : Term} (member : t ∈ ts) (closed : enclosed ts = some b) :
    t.body <:+: b := by
  cases ts with
  | nil => cases member
  | cons first others =>
    rw [← Option.some.inj closed]
    exact ((Position.infix_lay member).trans (List.infix_cons List.infix_rfl)).trans
      (List.infix_append [] _ _)

/-- The body of each leaf, at any depth, stands in one of the terms in one piece. -/
theorem exists_infix_terms (ok : f.terms cs = .ok ts) {leaf : Condition}
    (member : leaf ∈ Condition.leaves cs) :
    f.leafBody leaf = .ok none ∨
      ∃ b, f.leafBody leaf = .ok (some b) ∧ ∃ t ∈ ts, b <:+: t.body := by
  induction cs using Condition.forest_induction generalizing ts with
  | nil => cases Condition.leaves_nil ▸ member
  | leaf c cs isLeaf ih =>
    obtain ⟨body, us, ofLeaf, rest, rfl⟩ := (terms_leaf isLeaf).mp ok
    rw [Condition.leaves_leaf isLeaf] at member
    rcases List.mem_cons.mp member with rfl | member
    · cases body with
      | none => exact .inl ofLeaf
      | some b => exact .inr ⟨b, ofLeaf, _, List.mem_cons_self, List.infix_rfl⟩
    · refine (ih rest member).imp_right ?_
      rintro ⟨b, emitted, t, inTerms, stands⟩
      exact ⟨b, emitted, t, List.mem_append_right _ inTerms, stands⟩
  | group c cs isGroup inGroup ih =>
    obtain ⟨inner, us, ofGroup, rest, rfl⟩ := (terms_group isGroup).mp ok
    rw [Condition.leaves_group isGroup] at member
    rcases List.mem_append.mp member with member | member
    · refine (inGroup ofGroup member).imp_right ?_
      rintro ⟨b, emitted, t, inTerms, stands⟩
      -- a group with a term is written, in parentheses
      cases closed : enclosed inner with
      | none =>
        cases inner with
        | nil => cases inTerms
        | cons first others => cases closed
      | some whole =>
        exact ⟨b, emitted, _, List.mem_cons_self,
          stands.trans (infix_enclosed inTerms closed)⟩
    · refine (ih rest member).imp_right ?_
      rintro ⟨b, emitted, t, inTerms, stands⟩
      exact ⟨b, emitted, t, List.mem_append_right _ inTerms, stands⟩

/-- The body of each leaf stands in the rendered text in one piece. -/
theorem infix_render {p : Position} {g : Fragment} (ok : f.render p cs = .ok g) {leaf : Condition}
    (member : leaf ∈ Condition.leaves cs) :
    f.leafBody leaf = .ok none ∨ ∃ b, f.leafBody leaf = .ok (some b) ∧ b <:+: g := by
  obtain ⟨ts, terms, rfl⟩ := render_eq_ok.mp ok
  refine (exists_infix_terms terms member).imp_right ?_
  rintro ⟨b, emitted, t, inTerms, stands⟩
  exact ⟨b, emitted, stands.trans (Position.infix_lay inTerms)⟩

end Filter

/-! ### Sides -/

/-- The leaf compares its key with an expression, and the expression is blank. -/
def Condition.isHollow (c : Condition) : Bool :=
  c.predicate.shape == .single && c.expression?.any isBlankText

/-- The body of a leaf is a left side, the operator and a right side, and the left side is the
resolved key. -/
structure Filter.Sides (f : Filter) (c : Condition) (b : Fragment) (left right : String) :
    Prop where
  key : f.scope.script c.key = .ok left
  text : b.sql = left ++ " " ++ c.predicate.sql ++ " " ++ right

namespace Condition

variable {c : Condition}

theorem isHollow_of_shape (shape : c.predicate.shape ≠ .single) : c.isHollow = false := by
  rw [isHollow, beq_false_of_ne shape, Bool.false_and]

theorem isHollow_of_single (shape : c.predicate.shape = .single) {v : Value}
    (given : c.operand = some (.value v)) :
    c.isHollow = (Filter.inline? v).any isBlankText := by
  rw [isHollow, shape, expression?, given]
  rfl

end Condition

theorem Predicate.sql_of_between {p : Predicate} (shape : p.shape = .between) :
    p.sql = "BETWEEN" := by
  cases p with
  | between => rfl
  | _ => cases shape

namespace Filter

variable {f : Filter} {c : Condition} {operand : Operand}

/-- What stands on the right of an operator is inked, unless the leaf is hollow; then it is
empty. -/
theorem EmitsRest.right (names : f.scope.NamedBy Inked) (given : c.operand = some operand)
    {rest : Fragment} (follows : EmitsRest f c operand rest) :
    ∃ right, rest.sql = c.predicate.sql ++ " " ++ right ∧
      (Inked right ↔ c.isHollow = false) ∧ (c.isHollow → right = "") := by
  -- three of the four cases have a mark of their own on the right
  have inked : ∀ right, Inked right → c.isHollow = false →
      (Inked right ↔ c.isHollow = false) ∧ (c.isHollow → right = "") := by
    intro right given filled
    exact ⟨iff_of_true given filled, fun hollow => absurd hollow (by rw [filled]; decide)⟩
  cases follows with
  | @members _ vs list shape are written =>
    obtain ⟨pieces, -, rfl⟩ := Dialect.memberList_eq_ok written
    refine ⟨Fragment.sql (.text "(" :: Fragment.joined ", " (pieces.map fun p => [p]) ++
      [.text ")"]), ?_, inked _ ?_ (Condition.isHollow_of_shape (by rw [shape]; decide))⟩
    · rw [Fragment.sql_cons, Fragment.sql_cons, Piece.sql, Piece.sql, String.append_assoc]
    · rw [List.cons_append, Fragment.sql_cons, Piece.sql]
      exact Inked.append_right (s := "(") rfl _
  | @range low high shape =>
    refine ⟨"? AND ?", ?_, inked _ rfl
      (Condition.isHollow_of_shape (by rw [shape]; decide))⟩
    rw [Predicate.sql_of_between shape]
    rfl
  | @expression v e sql shape inlined resolved =>
    have hollow : c.isHollow = isBlankText e := by
      rw [Condition.isHollow_of_single shape given, inlined, Option.any_some]
    refine ⟨sql, by simp [Piece.sql, String.append_assoc], ?_⟩
    rw [hollow]
    by_cases blank : isBlankText e
    · rw [Scope.script_of_blank blank] at resolved
      obtain rfl := Except.ok.inj resolved
      rw [blank]
      exact ⟨iff_of_false (not_inked_iff.mpr rfl) Bool.noConfusion, fun _ => rfl⟩
    · rw [Bool.not_eq_true] at blank
      rw [blank]
      exact ⟨iff_of_true (names.script blank resolved) rfl, fun impossible => by cases impossible⟩
  | @value v shape isBound =>
    refine ⟨"?", by simp [Piece.sql, String.append_assoc], inked _ rfl ?_⟩
    rw [Condition.isHollow_of_single shape given, isBound]
    rfl

/-- The sides of a body. -/
theorem Emits.sides (names : f.scope.NamedBy Inked) (compares : c.predicate.shape.comparesKey)
    {b : Fragment} (emits : f.Emits c b) :
    ∃ left right, f.Sides c b left right ∧ Inked left ∧
      (Inked right ↔ c.isHollow = false) ∧ (c.isHollow → right = "") := by
  cases emits with
  | script shape => rw [shape] at compares; cases compares
  | nullCheck shape => rw [shape] at compares; cases compares
  | @comparison operand key rest shape given present some resolved follows =>
    obtain ⟨right, text, inked, empty⟩ := follows.right names given
    refine ⟨key, right, ⟨resolved, ?_⟩, names.script some resolved, inked, empty⟩
    rw [Fragment.sql_cons, Fragment.sql_cons, text, Piece.sql, Piece.sql]
    simp only [String.append_assoc]

/-- Comparisons have both sides. In a catalog that was built, with any aliases and at every
position, each leaf of conditions that render, at any depth, which compares its key either says
nothing, because its operand is absent or its key blank, or stands in the text in one piece as its
resolved key, its operator and a right side. The left side is never blank. The right side is blank
exactly when the operand is an expression between marks that is blank, and then it is empty. -/
theorem sides_of_render {d : CatalogDraft} {catalog : Catalog} (built : d.build = .ok catalog)
    (ofCatalog : f.scope.catalog = catalog) (ofEntity : f.scope.entity ∈ catalog.entities)
    {p : Position} {cs : List Condition} {g : Fragment} (ok : f.render p cs = .ok g) :
    ∀ leaf ∈ Condition.leaves cs, leaf.predicate.shape.comparesKey →
      (f.leafBody leaf = .ok none ∧ leaf.Silent) ∨
      ∃ b left right, f.leafBody leaf = .ok (some b) ∧ b <:+: g ∧ f.Sides leaf b left right ∧
        Inked left ∧ (Inked right ↔ leaf.isHollow = false) ∧ (leaf.isHollow → right = "") := by
  intro leaf member compares
  have ofNames := CatalogDraft.inked_of_build built
  have names : f.scope.NamedBy Inked := ⟨ofCatalog ▸ ofNames, ofNames _ ofEntity⟩
  rcases infix_render ok member with nothing | ⟨b, emitted, stands⟩
  · exact .inl ⟨nothing, (leafBody_eq_none_iff names).mp nothing⟩
  · obtain ⟨left, right, sides, inked⟩ :=
      (leafBody_eq_some_iff.mp emitted).sides names compares
    exact .inr ⟨b, left, right, emitted, stands, sides, inked⟩

end Filter

namespace Ledger

/-- The primary entity under the name `a`, compared in groups, with an expression, a range and a
list; one operand is absent and one expression is blank. -/
def compared : Filter where
  scope := ⟨catalog, account, .ofList [("a", "account")]⟩
  dialect := .mysql

def comparisons : List Condition := [
  .withValue .ge "amount" (.text "#a.amount - 1#"),
  .group [.withValue .like "state" .null, .between "closedAt" (.int 1) (.int 2),
    (Condition.group [.oneOf "LOWER( state )" [.text "open", .null],
      .withValue .eq "state" (.text "#  #")]).joinedBy (some .or)]]

end Ledger

/-- Of four comparisons that are written one is hollow. -/
theorem Filter.sides_of_render_comparisons :
    Ledger.draft.build = .ok Ledger.catalog ∧
    ∃ g, Ledger.compared.render .whereFirst Ledger.comparisons = .ok g ∧
      g.sql = "WHERE amount >= a.amount - 1 AND (closed_at BETWEEN ? AND ? OR " ++
        "(LOWER( account_state ) IN (?) AND account_state = ))" ∧
      ∃ b left right, b <:+: g ∧
        Ledger.compared.Sides (.withValue .ge "amount" (.text "#a.amount - 1#")) b left right ∧
        Inked left ∧ Inked right := by
  have text : (Ledger.compared.render .whereFirst Ledger.comparisons).toOption.map Fragment.sql =
      some ("WHERE amount >= a.amount - 1 AND (closed_at BETWEEN ? AND ? OR " ++
        "(LOWER( account_state ) IN (?) AND account_state = ))") := by decide +kernel
  obtain ⟨g, ok⟩ := Outcome.exists_of_isOk
    (x := Ledger.compared.render .whereFirst Ledger.comparisons) (by decide +kernel)
  rw [ok] at text
  refine ⟨Ledger.build_draft, g, ok, Option.some.inj text, ?_⟩
  have member : Condition.withValue .ge "amount" (.text "#a.amount - 1#") ∈
      Condition.leaves Ledger.comparisons := List.mem_cons_self
  rcases sides_of_render Ledger.build_draft rfl List.mem_cons_self ok _ member rfl with
    ⟨nothing, -⟩ | ⟨b, left, right, -, stands, sides, inked, filled, -⟩
  · have said : (Ledger.compared.leafBody
        (.withValue .ge "amount" (.text "#a.amount - 1#"))).toOption.bind id |>.isSome := by
      decide +kernel
    rw [nothing] at said
    cases said
  · exact ⟨b, left, right, stands, sides, inked, filled.mpr (by decide +kernel)⟩

/-- A comparison with the text `##` ends behind its operator, however it is read. -/
theorem Filter.not_sides_of_blank_expression :
    Ledger.draft.build = .ok Ledger.catalog ∧ Ledger.account ∈ Ledger.catalog.entities ∧
    ∃ b, Ledger.compared.leafBody (.withValue .eq "state" (.text "##")) = .ok (some b) ∧
      Ledger.compared.render .fragment [.withValue .eq "state" (.text "##")] =
        .ok (.text "AND" :: .text " " :: b) ∧
      b.sql = "account_state = " ∧
      ∀ left right, b.sql = left ++ " = " ++ right → ¬ Inked right := by
  refine ⟨Ledger.build_draft, List.mem_cons_self,
    [.text "account_state", .text " ", .text "=", .text " ", .text ""], rfl, rfl, rfl, ?_⟩
  intro left right text
  have chars : "account_state = ".toList = left.toList ++ ([' ', '=', ' '] ++ right.toList) := by
    rw [show "account_state = " = left ++ " = " ++ right from text, String.toList_append,
      String.toList_append, List.append_assoc]
    rfl
  have length : 16 = left.toList.length + (3 + right.toList.length) := by
    rw [show 16 = "account_state = ".toList.length from rfl, chars, List.length_append,
      List.length_append]
    rfl
  -- the mark of the operator stands at one place only, so nothing is left for the right side
  have mark : "account_state = ".toList[left.toList.length + 1]? = some '=' := by
    rw [chars, List.getElem?_append_right (Nat.le_add_right _ _), Nat.add_sub_cancel_left]
    rfl
  have place : ∀ n < 16, "account_state = ".toList[n]? = some '=' → n = 14 := by decide
  have behind := place _ (by omega) mark
  have none : right.toList = [] := List.length_eq_zero_iff.mp (by omega)
  rw [not_inked_iff, isBlankText, none]
  rfl

end BoundQuery
