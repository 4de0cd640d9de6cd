import BoundQuery.Proofs.BoundValues
import BoundQuery.Proofs.Faults
import BoundQuery.Proofs.QuotedText
import BoundQuery.Proofs.ReadClauses
import BoundQuery.Proofs.WhereClauses

/-!
# What the dialect decides

A dialect writes truth values and a few characters inside quotes in its own way, and has an index
hint or none. Nothing else depends on it: neither whether a statement compiles, nor its values, nor
its labels, and where none of these is in play, not its text.

## Main definitions

* `Value.isPortable`, the values that all dialects write alike
* `Condition.Portable`, `Criteria.Portable`, conditions and criteria that say nothing on which
  dialects differ

## Main results

* `Dialect.literal_alike`, `Dialect.memberList_alike` — what a value and a list become
* `Having.clause_alike`, `Filter.compile_related` — the same for the two clauses of conditions
* `Dialect.compile_agree` — reads and updates under two dialects
-/

namespace BoundQuery

open Text Outcome

/-! ### Literals -/

/-- The characters that the styles escape differently. Both double a backslash. -/
def Literal.isContested (c : Char) : Bool :=
  ['\'', '\n', '\r', '\t', Char.ofNat 0].contains c

/-- Is the value written alike in all dialects? -/
def Value.isPortable : Value → Bool
  | .bool _ => false
  | .text s | .constant s => s.toList.all fun c => !Literal.isContested c
  | .json j => j.compact.toList.all fun c => !Literal.isContested c
  | _ => true

namespace Literal

theorem not_isContested_of_isFigure {c : Char} (figure : isFigure c) : isContested c = false := by
  by_contra contested
  rw [Bool.not_eq_false, isContested, List.contains_iff_mem] at contested
  have others : ['\'', '\n', '\r', '\t', Char.ofNat 0].all fun c => !isFigure c := by decide
  have other := List.all_eq_true.mp others c contested
  rw [figure] at other
  cases other

/-- Dates and moments consist of figures, with a blank and colons. -/
theorem not_isContested_of_mem_moment {m : Moment} {c : Char} (member : c ∈ m.spacedText.toList) :
    isContested c = false := by
  rw [Moment.spacedText, String.toList_ofList, Moment.clock] at member
  simp only [List.mem_append, List.mem_cons] at member
  rcases member with date | rfl | (hour | rfl | minute) | rfl | second
  · exact not_isContested_of_isFigure (m.date.figures_chars c date)
  · rfl
  · exact not_isContested_of_isFigure (Date.figures_padded c hour)
  · rfl
  · exact not_isContested_of_isFigure (Date.figures_padded c minute)
  · rfl
  · exact not_isContested_of_isFigure (Date.figures_padded c second)

end Literal

/-- The text that a portable value has between its quotes. -/
theorem Value.not_isContested_of_mem {v : Value} {text : String} (portable : v.isPortable)
    (denoted : v.quotedText? = some text) : ∀ c ∈ text.toList, Literal.isContested c = false := by
  cases v with
  | text s =>
    cases denoted
    simpa [isPortable] using portable
  | constant name =>
    cases denoted
    simpa [isPortable] using portable
  | moment m =>
    cases denoted
    exact fun c member => Literal.not_isContested_of_mem_moment member
  | date d =>
    cases denoted
    intro c member
    rw [Date.text, String.toList_ofList] at member
    exact Literal.not_isContested_of_isFigure (d.figures_chars c member)
  | json j =>
    have same : text = j.compact := by
      cases j with
      | null => cases denoted
      | _ => exact (Option.some.inj denoted).symm
    rw [same]
    simpa [isPortable] using portable
  | null | bool | int | float => cases denoted

namespace LiteralStyle

/-- A character that is not contested is doubled by both styles, or kept by both. -/
theorem image_of_not_isContested {c : Char} (plain : Literal.isContested c = false)
    (style : LiteralStyle) : style.image c = if c = '\\' then ['\\', '\\'] else [c] := by
  split
  · next backslash =>
    rw [backslash]
    cases style <;> rfl
  · next other =>
    have listed : ∀ r ∈ style.replacements, r.1 = '\\' ∨ Literal.isContested r.1 := by
      cases style <;> decide
    refine replacedAll_other fun r member same => ?_
    rcases listed r member with backslash | contested
    · exact other (same.trans backslash)
    · rw [← same, plain] at contested
      cases contested

theorem quoted_congr {s : String} (plain : ∀ c ∈ s.toList, Literal.isContested c = false)
    (style style' : LiteralStyle) : style.quoted s = style'.quoted s := by
  have escaped : style.escape s = style'.escape s := by
    rw [← String.toList_inj, toList_escape, toList_escape]
    refine List.flatMap_congr fun c member => ?_
    rw [image_of_not_isContested (plain c member), image_of_not_isContested (plain c member)]
  rw [quoted, quoted, escaped]

/-- The values without a literal are the same in both styles. -/
theorem literal_alike {P : Prop} {v : Value} (portable : P → v.isPortable)
    (style style' : LiteralStyle) : Alike P (style.literal v) (style'.literal v) := by
  cases denoted : v.quotedText? with
  | some text =>
    rw [literal_of_quotedText? denoted, literal_of_quotedText? denoted]
    exact .ok fun holds =>
      quoted_congr (Value.not_isContested_of_mem (portable holds) denoted) style style'
  | none =>
    cases v with
    | bool b => exact .ok fun holds => absurd (portable holds) Bool.false_ne_true
    | null => exact Alike.refl _
    | int i => exact Alike.refl _
    | float x => cases x <;> exact Alike.refl _
    | json j =>
      cases j with
      | null => exact Alike.refl _
      | _ => cases denoted
    | text | constant | moment | date => cases denoted

end LiteralStyle

namespace Dialect

variable {P : Prop} {v : Value} {vs : List Value}

theorem literal_alike (portable : P → v.isPortable) (d d' : Dialect) :
    Alike P (d.literal v) (d'.literal v) :=
  LiteralStyle.literal_alike portable d.style d'.style

/-- Only truth values are members that dialects write differently: numbers have one form, and all
else is bound. -/
theorem member_alike (numeric : P → ∀ b, v ≠ .bool b) (d d' : Dialect) :
    Alike P (d.member v) (d'.member v) := by
  cases v with
  | bool b => exact .ok fun holds => absurd rfl (numeric holds b)
  | int i => exact Alike.refl _
  | float x => cases x <;> exact Alike.refl _
  | _ => exact Alike.refl _

theorem memberList_alike (numeric : P → ∀ b, .bool b ∉ vs) (d d' : Dialect) :
    Alike P (d.memberList vs) (d'.memberList vs) := by
  have each : ∀ v ∈ vs.filter fun v => !v.isNull, Alike P (d.member v) (d'.member v) := by
    intro v member
    refine member_alike (fun holds b same => numeric holds b ?_) d d'
    rw [← same]
    exact List.mem_of_mem_filter member
  refine (Alike.mapM each).bind fun pieces pieces' _ _ same => ?_
  -- an empty list is refused under both
  rw [same.1]
  split
  · exact .error rfl
  · exact .ok fun holds => by rw [same.2 holds]

end Dialect

/-! ### Conditions on rows -/

/-- No list of members holds a truth value. -/
def Condition.Portable (cs : List Condition) : Prop :=
  ∀ c ∈ leaves cs, c.predicate.isMembership → ∀ operand, c.operand = some operand →
    ∀ b, .bool b ∉ operand.values

theorem Condition.Portable.pruned {cs : List Condition} (portable : Condition.Portable cs)
    (s : Scope) : Condition.Portable (s.pruned cs) :=
  fun c member => portable c (Scope.mem_leaves_pruned member)

namespace Filter

variable {P : Prop} {s : Scope} {c : Condition} {cs : List Condition}

/-- The list of a membership is all of a leaf that a dialect writes. -/
theorem rest_alike {operand : Operand} (compares : c.predicate.shape.comparesKey)
    (numeric : P → c.predicate.isMembership → ∀ b, .bool b ∉ operand.values) (d d' : Dialect) :
    Alike P (rest ⟨s, d⟩ c operand) (rest ⟨s, d'⟩ c operand) := by
  cases shape : c.predicate.shape with
  | membership =>
    have kind : c.predicate.isMembership := by
      generalize c.predicate = p at shape
      cases p with
      | oneOf | noneOf => rfl
      | _ => cases shape
    rw [rest_membership shape, rest_membership shape]
    refine (Related.refl (fun _ => rfl) (members c operand)).bind fun vs us are _ same => ?_
    have plain : P → ∀ b, .bool b ∉ vs := by
      intro holds b
      cases operand with
      | value v => rw [← Except.ok.inj are]; exact numeric holds kind b
      | list us => rw [← Except.ok.inj are]; exact numeric holds kind b
      | range min max => cases are
    rw [← same]
    refine (Dialect.memberList_alike plain d d').bind fun list list' _ _ same => ?_
    exact .ok fun holds => by rw [same holds]
  | between | single =>
    rw [rest_eq compares, rest_eq compares, shape]
    exact Alike.refl _
  | marker | script | nullCheck => rw [shape] at compares; cases compares

theorem leafBody_alike
    (numeric : P → c.predicate.isMembership → ∀ operand, c.operand = some operand →
      ∀ b, .bool b ∉ operand.values) (d d' : Dialect) :
    Alike P (leafBody ⟨s, d⟩ c) (leafBody ⟨s, d'⟩ c) := by
  by_cases compares : c.predicate.shape.comparesKey
  · rw [leafBody_comparesKey compares, leafBody_comparesKey compares, predicateBody, predicateBody]
    cases given : c.operand with
    | none => exact Alike.refl _
    | some operand =>
      dsimp only
      split
      · exact Alike.refl _
      · refine (Related.refl (fun _ => rfl) (s.script c.key)).bind fun key key' _ _ sameKey => ?_
        refine (rest_alike compares (fun holds kind => numeric holds kind operand given) d d').bind ?_
        exact fun rest rest' _ _ same => .ok fun holds => by rw [sameKey, same holds]
  · -- scripts and null checks are resolved in the scope alone
    rw [leafBody_eq, leafBody_eq]
    cases shape : c.predicate.shape with
    | marker | script | nullCheck => exact Alike.refl _
    | membership | between | single => rw [shape] at compares; exact absurd rfl compares

/-- Conditions under two dialects: one fault or one list of values, and one text where no list
holds a truth value. -/
theorem compile_related (s : Scope) (d d' : Dialect) (p : Position) (cs : List Condition) :
    Related Eq (fun g h => Fragment.values g = Fragment.values h ∧
        (Condition.Portable cs → g = h))
      (compile ⟨s, d⟩ p cs) (compile ⟨s, d'⟩ p cs) := by
  have faults : fault? (compile ⟨s, d⟩ p cs) = fault? (compile ⟨s, d'⟩ p cs) := by
    rw [fault?_compile, fault?_compile]
    congr 1
    funext c
    exact (leafBody_alike (P := False) (fun never => never.elim) d d').fault?_eq
  refine (Related.of_fault? faults).imp (fun _ _ same => same) fun g h ofG ofH _ => ⟨?_, ?_⟩
  -- which values are bound is read off the scope and the conditions
  · exact (values_compile ofG).trans (values_compile ofH).symm
  · intro portable
    have same := compile_congr (f := ⟨s, d⟩) (g := ⟨s, d'⟩) (fun c member =>
      (leafBody_alike (fun _ => portable c member) d d').eq trivial) p
    exact Except.ok.inj (ofG.symm.trans (same.trans ofH))

end Filter

/-! ### Conditions on aggregates -/

/-- The condition compares with portable values only. -/
def Having.Portable (h : Having) : Prop :=
  ∀ operand, h.condition.operand = some operand → ∀ v ∈ operand.values, v.isPortable

namespace Having

variable {P : Prop}

theorem rest_alike {h : Having} {operand : Operand}
    (portable : P → ∀ v ∈ operand.values, v.isPortable) (d d' : Dialect) :
    Alike P (h.rest d operand) (h.rest d' operand) := by
  have literal : ∀ v ∈ operand.values, Alike P (d.literal v) (d'.literal v) :=
    fun v member => Dialect.literal_alike (fun holds => portable holds v member) d d'
  unfold rest
  generalize h.condition.predicate = p
  cases operand with
  | range min max =>
    cases p with
    | between =>
      refine (literal min (by simp [Operand.values])).bind fun low low' _ _ sameLow => ?_
      refine (literal max (by simp [Operand.values])).bind fun high high' _ _ sameHigh => ?_
      exact .ok fun holds => by rw [sameLow holds, sameHigh holds]
    | _ => exact Alike.refl _
  | list vs =>
    have listed : ∀ p : Predicate, Alike P
        (do
          let literals ← (vs.filter fun v => !v.isNull).mapM d.literal
          if literals.isEmpty then throw (.syntaxFault (.havingEmptyList p h.label))
          return p.sql ++ " (" ++ joinWith ", " literals ++ ")")
        (do
          let literals ← (vs.filter fun v => !v.isNull).mapM d'.literal
          if literals.isEmpty then throw (.syntaxFault (.havingEmptyList p h.label))
          return p.sql ++ " (" ++ joinWith ", " literals ++ ")") := by
      intro p
      have each : ∀ v ∈ vs.filter fun v => !v.isNull, Alike P (d.literal v) (d'.literal v) :=
        fun v member => literal v (List.mem_of_mem_filter member)
      refine (Alike.mapM each).bind fun texts texts' _ _ same => ?_
      rw [same.1]
      split
      · exact .error rfl
      · exact .ok fun holds => by rw [same.2 holds]
    cases p with
    | oneOf => exact listed .oneOf
    | noneOf => exact listed .noneOf
    | _ => exact Alike.refl _
  | value v =>
    have single : ∀ p : Predicate, Alike P
        (do return p.sql ++ " " ++ (← d.literal v)) (do return p.sql ++ " " ++ (← d'.literal v)) :=
      fun p => (literal v (by simp [Operand.values])).bind fun text text' _ _ same =>
        .ok fun holds => by rw [same holds]
    cases p with
    | eq | ne | gt | ge | lt | le | like | notLike => exact single _
    | _ => exact Alike.refl _

theorem body_alike {h : Having} (portable : P → h.Portable) (d d' : Dialect) :
    Alike P (h.body d) (h.body d') := by
  rw [body, body]
  cases given : h.condition.operand with
  | none => exact Alike.refl _
  | some operand =>
    dsimp only
    split
    · exact Alike.refl _
    · refine (rest_alike (fun holds => portable holds operand given) d d').bind ?_
      exact fun rest rest' _ _ same => .ok fun holds => by rw [same holds]

/-- The HAVING clause under two dialects. -/
theorem clause_alike {hs : List Having} (portable : P → ∀ h ∈ hs, h.Portable) (d d' : Dialect) :
    Alike P (clause d hs) (clause d' hs) := by
  have each : ∀ h ∈ hs, Alike P (h.body d) (h.body d') :=
    fun h member => body_alike (fun holds => portable holds h member) d d'
  have terms : Alike P (terms d hs) (terms d' hs) :=
    (Alike.mapM each).bind fun bodies bodies' _ _ same =>
      .ok fun holds => by rw [same.2 holds]
  exact terms.map fun ts ts' same holds => by rw [same holds]

end Having

/-! ### Statements -/

/-- Conditions on aggregates compare with portable values only. -/
def Projected.Portable (p : Projected) : Prop :=
  ∀ r ∈ p.reduces, ∀ c, r.having = some c → ∀ operand, c.operand = some operand →
    ∀ v ∈ operand.values, v.isPortable

theorem Projection.portable_ofProjected {scope : Scope} {settings : Settings} {counting : Bool}
    {p : Projected} {projection : Projection} (portable : p.Portable)
    (ok : ofProjected scope settings counting p = .ok projection) :
    ∀ h ∈ projection.having, h.Portable := by
  intro h member
  obtain ⟨r, isReduce, c, conditioned, rfl⟩ := mem_having_ofProjected ok member
  exact portable r isReduce c conditioned

/-- Criteria that ask for no index and hold nothing that dialects write differently. -/
structure Criteria.Portable (c : Criteria) : Prop where
  forceIndex : ∀ index, c.forceIndex = some index → isBlankText index
  conditions : Condition.Portable c.conditions
  projected : ∀ p, c.projected = some p → p.Portable

namespace Criteria

variable {P : Prop} {c : Criteria} {catalog : Catalog} {settings : Settings}

theorem given?_of_blank {text : Option String} (blank : ∀ s, text = some s → isBlankText s) :
    given? text = none := by
  rw [given?, Option.filter_eq_none_iff]
  intro s given
  simp [blank s given]

/-- An index that is asked for is a hint in one dialect and a warning in the other. -/
theorem fromClause_alike (unasked : P → ∀ index, c.forceIndex = some index → isBlankText index)
    (scope : Scope) (d d' : Dialect) :
    Alike P (c.fromClause scope d).outcome (c.fromClause scope d').outcome := by
  rw [fromClause, fromClause, Attempt.outcome_bind, Attempt.outcome_bind, Attempt.outcome_lift]
  refine (Related.refl (fun _ => rfl) _).bind fun script script' _ _ same => ?_
  rw [same]
  cases given : given? c.forceIndex with
  | none => exact Alike.refl _
  | some index =>
    have asked : ¬ P := fun holds => by
      rw [given?_of_blank (unasked holds)] at given
      cases given
    cases d <;> cases d' <;> exact .ok fun holds => absurd holds asked

/-- Pruning only drops conditions. -/
theorem Portable.effectiveConditions (portable : c.Portable) (scope : Scope) :
    Condition.Portable (c.effectiveConditions scope) := by
  rw [Criteria.effectiveConditions]
  split
  · exact portable.conditions.pruned scope
  · exact portable.conditions

theorem Portable.having (portable : c.Portable) {scope : Scope} {projection : Projection}
    (ok : c.projection scope settings = .ok projection) : ∀ h ∈ projection.having, h.Portable := by
  rw [Criteria.projection] at ok
  split at ok
  · next p given => exact Projection.portable_ofProjected (portable.projected p given) ok
  · rw [← Except.ok.inj ok]
    exact fun h member => absurd member List.not_mem_nil

/-- A read under two dialects: clause by clause, one fault, or the same values and labels, and one
read where the criteria are portable. -/
theorem compile_related (c : Criteria) (catalog : Catalog) (settings : Settings) (d d' : Dialect) :
    Related Eq
      (fun s t => s.values = t.values ∧ s.labels = t.labels ∧ s.countAlias = t.countAlias ∧
        (c.Portable → s = t))
      (c.compile catalog { settings with dialect := d }).outcome
      (c.compile catalog { settings with dialect := d' }).outcome := by
  rw [compile, compile]
  cases found : catalog.lookup? c.entity with
  | none => exact .error rfl
  | some e =>
    simp only [Attempt.outcome_bind, Attempt.outcome_lift, Attempt.outcome_pure]
    -- the columns are written before any dialect is asked
    refine (Related.refl (fun _ => rfl) (c.projection _ settings)).bind
      fun projection _ projected _ sameProjection => ?_
    subst sameProjection
    refine (fromClause_alike (P := c.Portable) (fun portable => portable.forceIndex) _ d d').bind
      fun source source' _ _ sameSource => ?_
    refine (Filter.compile_related _ d d' .whereFirst _).bind
      fun filter filter' _ _ sameFilter => ?_
    refine (Related.refl (fun _ => rfl) (c.groupByClause _).outcome).bind
      fun groupBy _ _ _ sameGroupBy => ?_
    refine (Having.clause_alike (P := c.Portable) (fun portable => portable.having projected)
      d d').bind fun having having' _ _ sameHaving => ?_
    refine (Related.refl (fun _ => rfl) (c.orderByClause _)).bind
      fun orderBy _ _ _ sameOrderBy => ?_
    refine .ok ⟨sameFilter.1, rfl, rfl, fun portable => ?_⟩
    rw [sameSource portable, sameFilter.2 (portable.effectiveConditions _), sameGroupBy,
      sameHaving portable, sameOrderBy]

end Criteria

/-- Two errors of one kind. -/
def CompileError.SameKind (error error' : CompileError) : Prop :=
  error.kind = error'.kind

theorem CompileError.sameKind_emptyUpdate (sql sql' : String) :
    SameKind (.emptyUpdate sql) (.emptyUpdate sql') := rfl

/-- An update under two dialects. An update that sets nothing is refused with its text, which may
differ. -/
theorem Update.compile_related (u : Update) (catalog : Catalog) (d d' : Dialect) :
    Related CompileError.SameKind
      (fun s t => s.values = t.values ∧ (Condition.Portable u.conditions → s = t))
      (u.compile catalog d).outcome (u.compile catalog d').outcome := by
  cases found : catalog.lookup? u.entity with
  | none =>
    rw [compile, compile, found]
    exact .error rfl
  | some e =>
    cases rendered : u.assignments.mapM (Assignment.ofEntry (scope catalog e)) with
    | error error =>
      have failed : ∀ d, (u.compile catalog d).outcome = .error error := by
        intro d
        rw [scope] at rendered
        rw [compile, found]
        simp only [Attempt.outcome_bind, Attempt.outcome_lift, rendered]
        rfl
      rw [failed, failed]
      exact .error rfl
    | ok entries =>
      rw [outcome_compile d found rendered, outcome_compile d' found rendered]
      have filters := (Filter.compile_related (scope catalog e) d d' .fragment
        ((scope catalog e).pruned u.conditions)).imp (D := CompileError.SameKind)
        (fun _ _ same => congrArg CompileError.kind same) fun _ _ _ _ same => same
      refine filters.bind fun filter filter' _ _ sameFilter => ?_
      split
      · exact .error (CompileError.sameKind_emptyUpdate _ _)
      · refine .ok ⟨?_, fun portable => ?_⟩
        · rw [UpdateStatement.values, UpdateStatement.values, sameFilter.1]
        · rw [sameFilter.2 (portable.pruned _)]

/-- The dialect changes only what it should. Under two dialects, a read fails with one error under
both, or compiles under both to the same values and labels, with a COUNT statement in both or in
neither; an update fails under both with errors of one kind, or compiles under both to the same
values. Criteria that ask for no index, list no truth values, and compare aggregates with portable
values only are the same statements under both, and so are updates that list no truth values. -/
theorem Dialect.compile_agree (catalog : Catalog) (settings : Settings) (c : Criteria) (u : Update)
    (d d' : Dialect) :
    ((∃ error, (c.compile catalog { settings with dialect := d }).outcome = .error error ∧
        (c.compile catalog { settings with dialect := d' }).outcome = .error error) ∨
      ∃ s t, (c.compile catalog { settings with dialect := d }).outcome = .ok s ∧
        (c.compile catalog { settings with dialect := d' }).outcome = .ok t ∧
        s.values = t.values ∧ s.labels = t.labels ∧ s.countSql?.isSome = t.countSql?.isSome ∧
        (c.Portable → s.sql = t.sql ∧ s.countSql? = t.countSql?)) ∧
    ((∃ error error', (u.compile catalog d).outcome = .error error ∧
        (u.compile catalog d').outcome = .error error' ∧ error.kind = error'.kind) ∨
      ∃ s t, (u.compile catalog d).outcome = .ok s ∧ (u.compile catalog d').outcome = .ok t ∧
        s.values = t.values ∧ (Condition.Portable u.conditions → s.sql = t.sql)) := by
  constructor
  · obtain ⟨error, error', failed, failed', rfl⟩ | ⟨s, t, ofS, ofT, values, labels, count, same⟩ :=
      (c.compile_related catalog settings d d').eq_error_or_eq_ok
    · exact .inl ⟨error, failed, failed'⟩
    · refine .inr ⟨s, t, ofS, ofT, values, labels, ?_, fun portable => ?_⟩
      · rw [Select.countSql?, Select.countSql?, Option.isSome_map, Option.isSome_map, count]
      · rw [same portable]
        exact ⟨rfl, rfl⟩
  · obtain ⟨error, error', failed, failed', kinds⟩ | ⟨s, t, ofS, ofT, values, same⟩ :=
      (u.compile_related catalog d d').eq_error_or_eq_ok
    · exact .inl ⟨error, error', failed, failed', kinds⟩
    · exact .inr ⟨s, t, ofS, ofT, values, fun portable => by rw [same portable]⟩

namespace Ledger

/-- A read with a blank index, a quote in a list, and a backslash in a condition on an aggregate. -/
def states : Criteria where
  entity := "Account"
  conditions := [.oneOf "state" [.text "O'Brien", .int 2]]
  forceIndex := some " "
  ignoresTotal := true
  projected := some {
    resultKeys := ["id"]
    reduces := [⟨"state", .groupConcat, some (.withValue .like "" (.text "a\\b"))⟩] }

theorem portable_states : states.Portable where
  forceIndex := by
    intro index given
    cases given
    rfl
  conditions := by
    have leaves : Condition.leaves states.conditions = states.conditions := by rfl
    rw [Condition.Portable, leaves]
    simp only [states, List.forall_mem_singleton]
    rintro - operand given
    cases given
    simp [Operand.values]
  projected := by
    intro p given
    cases given
    simp only [Projected.Portable, List.forall_mem_singleton]
    rintro c given operand isOperand
    cases given
    cases isOperand
    simp only [Operand.values, List.forall_mem_singleton]
    decide

theorem portable_closing : Condition.Portable closing.conditions := by
  have leaves : Condition.leaves closing.conditions = closing.conditions := by rfl
  rw [Condition.Portable, leaves]
  simp only [closing, List.forall_mem_cons]
  refine ⟨?_, ?_, ?_, by simp⟩
  all_goals
    rintro kind operand given
    cases given
    simp [Operand.values]

end Ledger

/-- A read and an update whose texts hold quotes and a backslash. -/
theorem Dialect.compile_agree_states :
    (∃ s t, (Ledger.states.compile Ledger.catalog { dialect := .mysql }).outcome = .ok s ∧
      (Ledger.states.compile Ledger.catalog { dialect := .clickhouse }).outcome = .ok t ∧
      s.sql = t.sql ∧ s.values = t.values ∧
      s.having = "HAVING state_group_concat LIKE 'a\\\\b'") ∧
    ∃ s t, (Ledger.closing.compile Ledger.catalog .mysql).outcome = .ok s ∧
      (Ledger.closing.compile Ledger.catalog .clickhouse).outcome = .ok t ∧ s.sql = t.sql := by
  obtain ⟨reads, updates⟩ := compile_agree Ledger.catalog {} Ledger.states Ledger.closing .mysql
    .clickhouse
  constructor
  · obtain ⟨error, failed, -⟩ | ⟨s, t, ofS, ofT, values, -, -, same⟩ := reads
    · have compiles : (Ledger.states.compile Ledger.catalog { dialect := .mysql }).outcome.isOk := by
        decide +kernel
      rw [failed] at compiles
      cases compiles
    · refine ⟨s, t, ofS, ofT, (same Ledger.portable_states).1, values, ?_⟩
      have having : ((Ledger.states.compile Ledger.catalog
          { dialect := .mysql }).outcome.map Select.having) =
            .ok "HAVING state_group_concat LIKE 'a\\\\b'" := by decide +kernel
      rw [ofS] at having
      exact Except.ok.inj having
  · obtain ⟨error, -, failed, -⟩ | ⟨s, t, ofS, ofT, -, same⟩ := updates
    · have compiles : (Ledger.closing.compile Ledger.catalog .mysql).outcome.isOk := by
        decide +kernel
      rw [failed] at compiles
      cases compiles
    · exact ⟨s, t, ofS, ofT, same Ledger.portable_closing⟩

end BoundQuery
