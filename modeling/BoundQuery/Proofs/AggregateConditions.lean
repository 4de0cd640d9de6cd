import BoundQuery.Proofs.BoundValues
import BoundQuery.Proofs.Fitting
import BoundQuery.Proofs.Positions
import BoundQuery.Proofs.ResultLabels

/-!
# Conditions on aggregates and conditions on rows

Conditions on aggregates are rendered with their values written in place, conditions on rows with
placeholders. Where both can be rendered, the HAVING clause of aggregates is the WHERE clause of
the same conditions on the labels, with each placeholder replaced by the literal of its value.

## Main definitions

* `Dialect.written`, the literal of a value
* `Predicate.Takes`, the operands that both clauses take
* `Having.onLabel`, the condition on the label of an aggregate as a condition on rows
* `Having.Plain`, the conditions that both clauses render

## Main results

* `Having.body_onLabel` — one condition gives the same text in both clauses, or nothing in both
* `Having.terms_onLabel` — so do all conditions, in order
* `Having.clause_eq_filled` — the two clauses agree
-/

namespace BoundQuery

open Text Placeholder

/-- No infinity and no NaN. -/
def Value.isFinite : Value → Bool
  | .float x => x.isFinite
  | _ => true

theorem Value.isFinite_bound (v : Value) : v.bound.isFinite = v.isFinite := by
  cases v <;> rfl

/-! ### Literals -/

namespace Dialect

variable {d : Dialect} {v : Value}

/-- The literal of a value; only numbers that are not finite have none. -/
def written (d : Dialect) (v : Value) : String :=
  (d.literal v).toOption.getD ""

theorem literal_of_finite (finite : v.isFinite) : d.literal v = .ok (d.written v) := by
  obtain ⟨text, ok⟩ : ∃ text, d.literal v = .ok text := by
    cases v with
    | float x =>
      cases x with
      | finite s m e => exact ⟨_, rfl⟩
      | _ => cases finite
    | json j => cases j <;> exact ⟨_, rfl⟩
    | _ => exact ⟨_, rfl⟩
  rw [written, ok]
  rfl

/-- A constant is bound by its name, and its literal is that of its name. -/
theorem written_bound (d : Dialect) (v : Value) : d.written v.bound = d.written v := by
  cases v <;> rfl

/-- A member of a list, written out or bound. -/
def piece (d : Dialect) (v : Value) : Piece :=
  if Literal.isSafe v then .text (d.written v) else .bound v

theorem member_of_finite (finite : v.isFinite) : d.member v = .ok (d.piece v) := by
  rw [member, piece]
  split
  · rw [literal_of_finite finite]
    rfl
  · rfl

theorem filled_piece (d : Dialect) (v : Value) : (d.piece v).filled d.written = d.written v := by
  rw [piece]
  split
  · rfl
  · exact d.written_bound v

end Dialect

/-! ### One condition -/

/-- Does the predicate take the operand, so that both clauses render the two? -/
inductive Predicate.Takes (p : Predicate) : Operand → Prop
  | value {v : Value} (shape : p.shape = .single) (plain : Filter.inline? v = none) :
    p.Takes (.value v)
  | range {min max : Value} (shape : p.shape = .between) : p.Takes (.range min max)
  | members {vs : List Value} (shape : p.shape = .membership)
    (some : ∃ v ∈ vs, v.isNull = false) : p.Takes (.list vs)

theorem Predicate.Takes.comparesKey {p : Predicate} {operand : Operand} (takes : p.Takes operand) :
    p.shape.comparesKey := by
  cases takes with
  | value shape | range shape | members shape => rw [shape]; rfl

/-- An absent operand says nothing, unless the predicate is a script or a null check. -/
theorem Filter.leafBody_of_absent {f : Filter} {c : Condition}
    (absent : c.operand.all Operand.isAbsent)
    (notScript : c.predicate.shape ≠ .script) (notCheck : c.predicate.shape ≠ .nullCheck) :
    f.leafBody c = .ok none := by
  by_cases compares : c.predicate.shape.comparesKey
  · rw [leafBody_comparesKey compares, predicateBody]
    cases given : c.operand with
    | none => rfl
    | some operand =>
      rw [given] at absent
      exact if_pos (by rw [show operand.isAbsent = true from absent]; rfl)
  · refine leafBody_marker ?_
    cases shape : c.predicate.shape <;> simp_all [Predicate.Shape.comparesKey]

namespace Having

variable {d : Dialect} {scope : Scope} {h : Having} {operand : Operand}

/-- The condition on the label of an aggregate, as a condition on rows. -/
def onLabel (h : Having) : Condition :=
  { h.condition with key := h.label }

theorem rest_value (shape : h.condition.predicate.shape = .single) (v : Value) :
    h.rest d (.value v) =
      (d.literal v).map fun literal => h.condition.predicate.sql ++ " " ++ literal := by
  unfold rest
  generalize h.condition.predicate = p at shape
  cases p <;> cases shape <;> rfl

theorem rest_range (shape : h.condition.predicate.shape = .between) (min max : Value) :
    h.rest d (.range min max) = (do
      let low ← d.literal min
      let high ← d.literal max
      return "BETWEEN " ++ low ++ " AND " ++ high) := by
  unfold rest
  generalize h.condition.predicate = p at shape
  cases p <;> cases shape
  rfl

theorem rest_members (shape : h.condition.predicate.shape = .membership) (vs : List Value) :
    h.rest d (.list vs) = (do
      let literals ← (vs.filter fun v => !v.isNull).mapM d.literal
      if literals.isEmpty then
        throw (.syntaxFault (.havingEmptyList h.condition.predicate h.label))
      return h.condition.predicate.sql ++ " (" ++ joinWith ", " literals ++ ")") := by
  unfold rest
  generalize h.condition.predicate = p at shape
  cases p <;> cases shape <;> rfl

/-- The members of a list with their literals in place. -/
theorem filled_members (d : Dialect) (vs : List Value) :
    Fragment.filled d.written (Fragment.joined ", " ((vs.map d.piece).map fun p => [p])) =
      joinWith ", " (vs.map d.written) := by
  have each : ∀ v, Fragment.filled d.written [d.piece v] = d.written v := by
    intro v
    rw [Fragment.filled_cons, Fragment.filled_nil, String.append_empty, d.filled_piece]
  simp only [Fragment.filled_joined, List.map_map, Function.comp_def, each]

/-- The list of members as both clauses write it. -/
theorem rest_onLabel_members {vs : List Value} (shape : h.condition.predicate.shape = .membership)
    (some : ∃ v ∈ vs, v.isNull = false) (finite : ∀ v ∈ vs, v.isFinite) :
    ∃ g, Filter.rest ⟨scope, d⟩ h.onLabel (.list vs) = .ok g ∧
      h.rest d (.list vs) = .ok (Fragment.filled d.written g) ∧
      (∀ v ∈ Fragment.values g, v.isFinite) ∧ g.Fits := by
  generalize isPresent : (vs.filter fun v => !v.isNull) = present
  have presentFinite : ∀ v ∈ present, v.isFinite := by
    intro v member
    rw [← isPresent] at member
    exact finite v (List.mem_of_mem_filter member)
  have nonempty : present ≠ [] := by
    obtain ⟨v, member, notNull⟩ := some
    rw [← isPresent]
    exact List.ne_nil_of_mem (List.mem_filter.mpr ⟨member, by rw [notNull]; rfl⟩)
  have listed : d.memberList vs = .ok (.text "(" ::
      Fragment.joined ", " ((present.map d.piece).map fun p => [p]) ++ [.text ")"]) := by
    have pieces : present.mapM d.member = .ok (present.map d.piece) :=
      Outcome.mapM_eq_map fun v member => Dialect.member_of_finite (presentFinite v member)
    rw [Dialect.memberList, isPresent, pieces, Outcome.ok_bind, if_neg (by simpa using nonempty)]
    rfl
  have literals : present.mapM d.literal = .ok (present.map d.written) :=
    Outcome.mapM_eq_map fun v member => Dialect.literal_of_finite (presentFinite v member)
  refine ⟨.text h.condition.predicate.sql :: .text " " :: .text "(" ::
    Fragment.joined ", " ((present.map d.piece).map fun p => [p]) ++ [.text ")"], ?_, ?_, ?_, ?_⟩
  · rw [Filter.rest_membership (c := h.onLabel) shape, Filter.members, Outcome.ok_bind, listed]
    rfl
  · rw [rest_members shape, isPresent, literals, Outcome.ok_bind, if_neg (by simpa using nonempty)]
    simp only [Fragment.filled_cons, Fragment.filled_append, Fragment.filled_nil, filled_members,
      Piece.filled, show " (" = " " ++ "(" from rfl, String.append_assoc, String.append_empty]
    rfl
  · intro u member
    have bound := Dialect.values_memberList listed
    rw [isPresent] at bound
    replace member : u ∈ (present.filter fun v => !Literal.isSafe v).map Value.bound :=
      bound ▸ member
    obtain ⟨v, isMember, rfl⟩ := List.mem_map.mp member
    rw [Value.isFinite_bound]
    exact presentFinite v (List.mem_of_mem_filter isMember)
  · exact Fragment.fits_cons h.condition.predicate.free_sql
      (Fragment.fits_text (s := " ") rfl (Dialect.fits_memberList listed))

/-- What follows the label of an aggregate is the same in both clauses. -/
theorem rest_onLabel (d : Dialect) (scope : Scope)
    (takes : h.condition.predicate.Takes operand) (finite : ∀ v ∈ operand.values, v.isFinite) :
    ∃ g, Filter.rest ⟨scope, d⟩ h.onLabel operand = .ok g ∧
      h.rest d operand = .ok (Fragment.filled d.written g) ∧
      (∀ v ∈ Fragment.values g, v.isFinite) ∧ g.Fits := by
  cases takes with
  | @value v shape plain =>
    have isFinite : v.isFinite := finite v (List.mem_singleton.mpr rfl)
    refine ⟨_, Filter.rest_value (c := h.onLabel) shape plain, ?_, ?_, ?_⟩
    · rw [rest_value shape, Dialect.literal_of_finite isFinite]
      simp [Piece.filled, Dialect.written_bound, onLabel, String.append_assoc, Except.map]
    · simpa [Piece.values, Value.isFinite_bound] using isFinite
    · exact Fragment.fits_cons h.condition.predicate.free_sql
        (Fragment.fits_text (s := " ") rfl (Fragment.fits_cons trivial Fragment.fits_nil))
  | @range min max shape =>
    have low : min.isFinite := finite min (by simp [Operand.values])
    have high : max.isFinite := finite max (by simp [Operand.values])
    refine ⟨_, Filter.rest_range (c := h.onLabel) shape min max, ?_, ?_, ?_⟩
    · rw [rest_range shape, Dialect.literal_of_finite low, Dialect.literal_of_finite high]
      simp [Piece.filled, Dialect.written_bound, String.append_assoc, bind, Except.bind, pure,
        Except.pure]
    · simpa [Piece.values, Value.isFinite_bound] using ⟨low, high⟩
    · exact Fragment.fits_text (s := "BETWEEN ") rfl (Fragment.fits_cons trivial
        (Fragment.fits_text (s := " AND ") rfl (Fragment.fits_cons trivial Fragment.fits_nil)))
  | members shape some => exact rest_onLabel_members shape some finite

/-- A condition on an aggregate that the WHERE clause renders in the same way: its label is a key that
resolves to itself, and its operand one that both clauses take. An absent operand says nothing in
either clause, unless the predicate is a null check or a script. -/
structure Plain (scope : Scope) (h : Having) : Prop where
  leaf : h.condition.children = []
  joined : h.condition.conjunction.isSome
  named : h.label ≠ ""
  unchanged : scope.script h.label = .ok h.label
  shared : (h.condition.operand.all Operand.isAbsent ∧
      h.condition.predicate.shape ≠ .script ∧ h.condition.predicate.shape ≠ .nullCheck) ∨
    ∃ operand, h.condition.operand = some operand ∧ h.condition.predicate.Takes operand
  finite : ∀ operand, h.condition.operand = some operand → ∀ v ∈ operand.values, v.isFinite

theorem body_of_absent (absent : h.condition.operand.all Operand.isAbsent) :
    h.body d = .ok none := by
  rw [body]
  cases given : h.condition.operand with
  | none => rfl
  | some operand =>
    rw [given] at absent
    exact if_pos absent

theorem Plain.inked (plain : h.Plain scope) : isBlankText h.label = false := by
  by_contra blank
  rw [Bool.not_eq_false] at blank
  have resolved := plain.unchanged
  rw [Scope.script_of_blank blank] at resolved
  exact plain.named (Except.ok.inj resolved).symm

/-- One condition gives the same text in both clauses, or nothing in both. -/
theorem body_onLabel (d : Dialect) (plain : h.Plain scope) :
    ∃ b : Option Fragment, Filter.leafBody ⟨scope, d⟩ h.onLabel = .ok b ∧
      h.body d = .ok (b.map (Fragment.filled d.written)) ∧
      ∀ g, b = some g → (∀ v ∈ Fragment.values g, v.isFinite) ∧ (Free h.label → g.Fits) := by
  by_cases absent : h.condition.operand.all Operand.isAbsent
  · have neither : h.condition.predicate.shape ≠ .script ∧
        h.condition.predicate.shape ≠ .nullCheck := by
      rcases plain.shared with ⟨-, neither⟩ | ⟨operand, -, takes⟩
      · exact neither
      · have compares := takes.comparesKey
        constructor <;>
        · intro shape
          rw [shape] at compares
          cases compares
    exact ⟨none, Filter.leafBody_of_absent (c := h.onLabel) absent neither.1 neither.2,
      body_of_absent absent, fun g given => nomatch given⟩
  · obtain ⟨operand, given, takes⟩ := plain.shared.resolve_left fun other => absent other.1
    have present : operand.isAbsent = false := by simpa [given] using absent
    obtain ⟨g, onRows, onAggregates, finite, fits⟩ :=
      rest_onLabel d scope takes (plain.finite operand given)
    refine ⟨some (.text h.label :: .text " " :: g), ?_, ?_, ?_⟩
    · exact Filter.leafBody_eq_some_iff.mpr (.comparison takes.comparesKey given present
        plain.inked plain.unchanged
        ((Filter.rest_eq_ok_iff (c := h.onLabel) takes.comparesKey).mp onRows))
    · simp only [body, given, present, onAggregates]
      simp [Piece.filled, bind, Except.bind, pure, Except.pure, String.append_assoc]
    · intro body isBody
      rw [← Option.some.inj isBody]
      refine ⟨finite, fun free => ?_⟩
      exact Fragment.fits_text free (Fragment.fits_text (s := " ") rfl fits)

/-! ### Conditions in a row -/

/-- The first condition says something or nothing, and the others follow. -/
theorem terms_cons {hs : List Having} {b : Option String} {ts : List (Conjunction × String)}
    (first : h.body d = .ok b) (others : terms d hs = .ok ts) :
    terms d (h :: hs) =
      .ok ((b.map (h.condition.conjunction.getD .and, ·)).toList ++ ts) := by
  obtain ⟨bodies, ofBodies, result⟩ := Outcome.bind_eq_ok.mp others
  rw [terms, List.mapM_cons, first, Outcome.ok_bind, ofBodies]
  rw [← Outcome.pure_eq_ok.mp result]
  cases b <;> rfl

/-- What a condition on rows and the text on an aggregate have in common. -/
def term (d : Dialect) (t : Term) : Conjunction × String :=
  (t.conjunction.getD .and, t.body.filled d.written)

/-- The conditions give the same terms in both clauses, in order. -/
theorem terms_onLabel (d : Dialect) {hs : List Having} (plain : ∀ h ∈ hs, h.Plain scope) :
    ∃ ts, Filter.terms ⟨scope, d⟩ (hs.map onLabel) = .ok ts ∧
      terms d hs = .ok (ts.map (term d)) ∧
      ∀ t ∈ ts, t.conjunction.isSome ∧ (∀ v ∈ Fragment.values t.body, v.isFinite) ∧
        ((∀ h ∈ hs, Free h.label) → t.body.Fits) := by
  induction hs with
  | nil => exact ⟨[], Filter.terms_nil, rfl, by simp⟩
  | cons h hs ih =>
    rw [List.forall_mem_cons] at plain
    obtain ⟨b, onRows, onAggregates, first⟩ := body_onLabel d plain.1
    obtain ⟨ts, ofRows, ofAggregates, others⟩ := ih plain.2
    refine ⟨(b.map (⟨h.condition.conjunction, ·⟩)).toList ++ ts, ?_, ?_, ?_⟩
    · exact (Filter.terms_leaf (c := h.onLabel) plain.1.leaf).mpr ⟨b, ts, onRows, ofRows, rfl⟩
    · rw [terms_cons onAggregates ofAggregates]
      cases b <;> rfl
    · intro t member
      rw [List.forall_mem_cons]
      rcases List.mem_append.mp member with member | member
      · obtain ⟨g, isBody, rfl⟩ := Option.map_eq_some_iff.mp (Option.mem_toList.mp member)
        obtain ⟨finite, fits⟩ := first g isBody
        exact ⟨plain.1.joined, finite, fun free => fits free.1⟩
      · obtain ⟨joined, finite, fits⟩ := others t member
        exact ⟨joined, finite, fun free => fits free.2⟩

/-- Terms in a row, behind HAVING and behind WHERE. -/
theorem lay_terms (d : Dialect) {t : Term} {ts : List Term}
    (joined : ∀ u ∈ ts, u.conjunction.isSome) :
    ∃ text, lay ((t :: ts).map (term d)) = "HAVING " ++ text ∧
      Fragment.filled d.written (Position.whereFirst.lay (t :: ts)) = "WHERE " ++ text := by
  have others : String.join ((ts.map (term d)).map fun u => " " ++ u.1.sql ++ " " ++ u.2) =
      Fragment.filled d.written
        (ts.flatMap fun u => .text " " :: Position.joining u.conjunction ++ u.body) := by
    induction ts with
    | nil => rfl
    | cons u us ih =>
      rw [List.forall_mem_cons] at joined
      obtain ⟨c, isSome⟩ := Option.isSome_iff_exists.mp joined.1
      rw [List.map_cons, List.map_cons, String.join_cons, ih joined.2, List.flatMap_cons,
        Fragment.filled_append, term, isSome]
      simp [Position.joining, Piece.filled, String.append_assoc]
  refine ⟨t.body.filled d.written ++ String.join ((ts.map (term d)).map fun u =>
    " " ++ u.1.sql ++ " " ++ u.2), ?_, ?_⟩
  · rw [List.map_cons, lay, String.append_assoc]
    rfl
  · rw [Position.lay, Fragment.filled_append, Fragment.filled_append, others, String.append_assoc]
    rfl

/-- Conditions on aggregates read as conditions on rows. The HAVING clause is the WHERE clause of
the same conditions on the labels, with the literals of its values in place of the placeholders. -/
theorem clause_eq_filled (d : Dialect) {hs : List Having} (plain : ∀ h ∈ hs, h.Plain scope) :
    ∃ text g, clause d hs = .ok text ∧
      Filter.compile ⟨scope, d⟩ .whereFirst (hs.map onLabel) = .ok g ∧
      (∀ v ∈ Fragment.values g, d.literal v = .ok (d.written v)) ∧
      (text = "" ↔ Fragment.sql g = "") ∧
      (text ≠ "" → ∃ rest, text = "HAVING " ++ rest ∧
        Fragment.filled d.written g = "WHERE " ++ rest) ∧
      ((∀ h ∈ hs, Free h.label) →
        fill d.written (Fragment.sql g) (Fragment.values g) =
          (Fragment.filled d.written g, [])) := by
  obtain ⟨ts, ofRows, ofAggregates, each⟩ := terms_onLabel d plain
  have same : ts = [] ∨ ∃ rest, lay (ts.map (term d)) = "HAVING " ++ rest ∧
      Fragment.filled d.written (Position.whereFirst.lay ts) = "WHERE " ++ rest := by
    cases ts with
    | nil => exact .inl rfl
    | cons t ts => exact .inr (lay_terms d fun u member =>
        (each u (List.mem_cons_of_mem t member)).1)
  refine ⟨_, _, Outcome.map_eq_ok.mpr ⟨_, ofAggregates, rfl⟩,
    Filter.compile_eq_ok.mpr ⟨ts, ofRows, rfl⟩, ?_, ?_, ?_, ?_⟩
  · intro v member
    rw [Filter.values_lay, List.mem_flatMap] at member
    obtain ⟨t, isTerm, member⟩ := member
    exact Dialect.literal_of_finite ((each t isTerm).2.1 v member)
  · cases ts with
    | nil => exact ⟨fun _ => rfl, fun _ => rfl⟩
    | cons t ts =>
      obtain ⟨rest, onAggregates, -⟩ := same.resolve_left (List.cons_ne_nil t ts)
      rw [onAggregates]
      refine iff_of_false ?_ (Filter.sql_lay_ne_empty ofRows _)
      simp
  · intro given
    refine same.resolve_left fun none => given ?_
    rw [none]
    rfl
  · intro free
    exact Fragment.fill_all (Filter.fits_lay (fun t member => (each t member).2.2 free) _)

end Having

namespace Shop

/-- Conditions on aggregates of orders: a comparison, a list with a null, an absent operand, a
constant, and a range that is open below. -/
def limits : List Having := [
  ⟨"total_sum", .withValue .gt "" (.int 5)⟩,
  ⟨"id_count", (Condition.oneOf "" [.int 2, .null, .text "a"]).joinedBy (some .or)⟩,
  ⟨"id_max", .on "" .like none⟩,
  ⟨"o$status_max", .withValue .ne "" (.constant "PAID")⟩,
  ⟨"total_min", .between "" .null (.float (.finite false 0x13000000000000 (-49)))⟩]

theorem plain_limits : ∀ h ∈ limits, h.Plain orders := by
  simp only [limits, List.forall_mem_cons]
  refine ⟨⟨rfl, rfl, by decide, by decide +kernel, .inr ⟨_, rfl, .value rfl rfl⟩, ?_⟩,
    ⟨rfl, rfl, by decide, by decide +kernel,
      .inr ⟨_, rfl, .members rfl ⟨.int 2, by simp, rfl⟩⟩, ?_⟩,
    ⟨rfl, rfl, by decide, by decide +kernel, .inl ⟨rfl, by decide, by decide⟩, ?_⟩,
    ⟨rfl, rfl, by decide, by decide +kernel, .inr ⟨_, rfl, .value rfl rfl⟩, ?_⟩,
    ⟨rfl, rfl, by decide, by decide +kernel, .inr ⟨_, rfl, .range rfl⟩, ?_⟩, by simp⟩
  all_goals
    intro operand given
    cases given
  all_goals simp [Operand.values, Value.isFinite, Binary64.isFinite]

end Shop

/-- The two clauses of conditions on orders. -/
theorem Having.clause_eq_filled_limits :
    ∃ rest g, clause .mysql Shop.limits = .ok ("HAVING " ++ rest) ∧
      rest = "total_sum > 5 OR id_count IN (2, 'a') AND o$status_max <> 'PAID' AND " ++
        "total_min BETWEEN NULL AND 9.5" ∧
      Filter.compile ⟨Shop.orders, .mysql⟩ .whereFirst (Shop.limits.map onLabel) = .ok g ∧
      fill (Dialect.written .mysql) (Fragment.sql g) (Fragment.values g) =
        ("WHERE " ++ rest, []) := by
  have written : clause .mysql Shop.limits = .ok ("HAVING " ++
      ("total_sum > 5 OR id_count IN (2, 'a') AND o$status_max <> 'PAID' AND " ++
        "total_min BETWEEN NULL AND 9.5")) := by decide +kernel
  obtain ⟨text, g, ofAggregates, ofRows, -, -, same, filled⟩ :=
    clause_eq_filled .mysql Shop.plain_limits
  rw [written] at ofAggregates
  obtain rfl := Except.ok.inj ofAggregates
  obtain ⟨rest, isRest, filledText⟩ := same (by decide)
  obtain rfl := (String.append_right_inj _).mp isRest
  refine ⟨_, g, written, rfl, ofRows, ?_⟩
  rw [filled (by decide), filledText]

/-- A null check without an operand checks the key among rows, and nothing among aggregates. -/
theorem Having.clause_nullCheck :
    Shop.orders.script "total_sum" = .ok "total_sum" ∧
    clause .mysql [⟨"total_sum", .on "" .isNotNull none⟩] = .ok "" ∧
    (Filter.compile ⟨Shop.orders, .mysql⟩ .whereFirst
      ([⟨"total_sum", .on "" .isNotNull none⟩].map onLabel)).map Fragment.sql =
        .ok "WHERE total_sum IS NOT NULL" := by
  decide +kernel

end BoundQuery
