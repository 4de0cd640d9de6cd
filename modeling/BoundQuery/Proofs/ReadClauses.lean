import BoundQuery.Proofs.Fitting
import BoundQuery.Statement.Select

/-!
# The clauses of a read

A read is compiled clause by clause. All clauses but the conditions are text; where the criteria
hold placeholders in scripts of conditions only, these clauses hold none.

## Main definitions

* `Projected.Fits`, `Criteria.Fits`, placeholders in scripts of conditions only
* `Select.Bare`, a read without placeholders outside its conditions

## Main results

* `Criteria.compile_eq_ok` — a compiled read, clause by clause
* `Criteria.Fits.bare` — the clauses other than the conditions hold no placeholders
* `Criteria.Fits.effectiveConditions` — the conditions have a placeholder for each value
-/

namespace BoundQuery

open Text Placeholder

/-! ### Clause by clause -/

namespace Projection

/-- A projection that was built, section by section. -/
theorem ofProjected_eq_ok {scope : Scope} {settings : Settings} {counting : Bool} {p : Projected}
    {projection : Projection}
    (ok : ofProjected scope settings counting p = .ok projection) :
    ∃ distinct aggregates keys,
      resolved scope p.distinct = .ok distinct ∧
      p.reduces.mapM (aggregated scope settings.separator counting) = .ok aggregates ∧
      resolved scope p.resultKeys = .ok keys ∧
      let start := recordKeys (recordKeys { aliases := scope.aliases } distinct) keys
      let first := start.columns settings.stem (distinct.map Prod.snd)
      let second := (recordAggregates first.2 aggregates).columns settings.stem (keys.map Prod.snd)
      projection = {
        columns := (if distinct.isEmpty then [] else ["DISTINCT " ++ joinWith ", " first.1]) ++
          aggregates.map Aggregated.column ++ second.1
        counted :=
          if distinct.isEmpty then "COUNT(*)"
          else "COUNT(DISTINCT " ++ joinWith ", " (distinct.map Prod.snd) ++ ")"
        having := aggregates.filterMap Aggregated.having
        labels := second.2 } := by
  rw [ofProjected] at ok
  split at ok
  · cases ok
  · obtain ⟨distinct, ofDistinct, ok⟩ := Outcome.bind_eq_ok.mp ok
    obtain ⟨aggregates, ofReduces, ok⟩ := Outcome.bind_eq_ok.mp ok
    obtain ⟨keys, ofKeys, ok⟩ := Outcome.bind_eq_ok.mp ok
    exact ⟨distinct, aggregates, keys, ofDistinct, ofReduces, ofKeys,
      (Outcome.pure_eq_ok.mp ok).symm⟩

end Projection

namespace Criteria

variable {c : Criteria} {catalog : Catalog} {settings : Settings} {s : Select}

/-- The conditions of a read are rendered in its scope and dialect. -/
def filterOf (c : Criteria) (catalog : Catalog) (settings : Settings) (e : Entity) : Filter :=
  ⟨c.scope catalog e, settings.dialect⟩

/-- A compiled read, clause by clause. -/
theorem compile_eq_ok (ok : (c.compile catalog settings).outcome = .ok s) :
    ∃ e projection source filter groupBy having orderBy,
      catalog.lookup? c.entity = some e ∧
      c.projection (c.scope catalog e) settings = .ok projection ∧
      (c.fromClause (c.scope catalog e) settings.dialect).outcome = .ok source ∧
      (c.filterOf catalog settings e).compile .whereFirst
        (c.effectiveConditions (c.scope catalog e)) = .ok filter ∧
      (c.groupByClause (c.scope catalog e)).outcome = .ok groupBy ∧
      Having.clause settings.dialect projection.having = .ok having ∧
      c.orderByClause (c.scope catalog e) = .ok orderBy ∧
      s = {
        columns := joinWith ", " projection.columns
        counted := projection.counted
        countAlias := if c.ignoresTotal then none else some settings.countAlias
        source, filter, groupBy, having, orderBy
        labels := projection.labels } := by
  rw [compile] at ok
  cases found : catalog.lookup? c.entity with
  | none => rw [found] at ok; cases ok
  | some e =>
    simp only [found, Attempt.outcome_bind, Attempt.outcome_lift, Attempt.outcome_pure] at ok
    obtain ⟨projection, ofProjection, ok⟩ := Outcome.bind_eq_ok.mp ok
    obtain ⟨source, ofSource, ok⟩ := Outcome.bind_eq_ok.mp ok
    obtain ⟨filter, ofFilter, ok⟩ := Outcome.bind_eq_ok.mp ok
    obtain ⟨groupBy, ofGroupBy, ok⟩ := Outcome.bind_eq_ok.mp ok
    obtain ⟨having, ofHaving, ok⟩ := Outcome.bind_eq_ok.mp ok
    obtain ⟨orderBy, ofOrderBy, ok⟩ := Outcome.bind_eq_ok.mp ok
    exact ⟨e, projection, source, filter, groupBy, having, orderBy, rfl, ofProjection, ofSource,
      ofFilter, ofGroupBy, ofHaving, ofOrderBy, (Except.ok.inj ok).symm⟩

end Criteria

/-! ### Placeholders in scripts only -/

/-- No key of the projection holds a placeholder, nor does a text that a condition on an aggregate
compares with. -/
structure Projected.Fits (p : Projected) : Prop where
  resultKeys : ∀ key ∈ p.resultKeys, Free key
  distinct : ∀ key ∈ p.distinct, Free key
  reduces : ∀ r ∈ p.reduces, Free r.property
  having : ∀ r ∈ p.reduces, ∀ c, r.having = some c → ∀ operand, c.operand = some operand →
    ∀ v ∈ operand.values, ∀ s ∈ v.texts, Free s

/-- Placeholders stand in scripts of conditions only, one for each bound value. -/
structure Criteria.Fits (catalog : Catalog) (settings : Settings) (c : Criteria) : Prop where
  names : catalog.Lacks isMark
  countAlias : Free settings.countAlias
  separator : Free settings.separator
  stem : Free settings.stem
  source : ∀ script, c.source = some script → Free script
  groupBy : ∀ keys, c.groupBy = some keys → Free keys
  forceIndex : ∀ index, c.forceIndex = some index → Free index
  sorts : ∀ sort ∈ c.sorts, Free sort.key
  projected : ∀ p, c.projected = some p → p.Fits
  conditions : Condition.Fit c.conditions

/-- Neither the label nor a text that the condition compares with holds a placeholder. -/
structure Having.Bare (h : Having) : Prop where
  label : Free h.label
  texts : ∀ operand, h.condition.operand = some operand →
    ∀ v ∈ operand.values, ∀ s ∈ v.texts, Free s

/-- No text of the read but its conditions holds a placeholder. -/
structure Select.Bare (s : Select) : Prop where
  columns : Free s.columns
  counted : Free s.counted
  countAlias : ∀ label, s.countAlias = some label → Free label
  source : Free s.source
  groupBy : Free s.groupBy
  having : Free s.having
  orderBy : Free s.orderBy

theorem Placeholder.free_append {s t : String} (left : Free s) (right : Free t) :
    Free (s ++ t) := by
  rw [Free, marks_append, left, right, List.nil_append]

theorem Placeholder.free_join {texts : List String} (each : ∀ text ∈ texts, Free text) :
    Free (String.join texts) := by
  induction texts with
  | nil => rfl
  | cons text texts ih =>
    rw [List.forall_mem_cons] at each
    rw [String.join_cons]
    exact free_append each.1 (ih each.2)

/-- A clause that is put together from clauses without placeholders has none. -/
theorem Select.free_clauses {parts : List String} (each : ∀ part ∈ parts, Free part) :
    Free (clauses parts) :=
  marks_joinWith_eq_nil (rfl : Free " ") fun part member =>
    each part (List.mem_of_mem_filter member)

/-! ### Columns -/

namespace Labels

variable {stem : String}

theorem free_next (free : Free stem) (l : Labels) : Free (l.next stem) := by
  refine free_append free (free_of_figures ?_)
  rw [String.toList_ofList]
  exact .toDigits _

/-- Labels bring no placeholders to columns. -/
theorem free_columns (free : Free stem) {l : Labels} {expressions : List String}
    (each : ∀ e ∈ expressions, Free e) :
    ∀ column ∈ (l.columns stem expressions).1, Free column := by
  induction expressions generalizing l with
  | nil => exact fun column member => absurd member List.not_mem_nil
  | cons e es ih =>
    have first : Free (l.column stem e).1 := by
      rw [column]
      split
      · exact free_append (free_append (each e List.mem_cons_self) (rfl : Free " AS "))
          (free_next free l)
      · exact each e List.mem_cons_self
    intro column member
    rcases List.mem_cons.mp member with rfl | member
    · exact first
    · exact ih (fun e member => each e (List.mem_cons_of_mem _ member)) column member

end Labels

namespace Projection

variable {scope : Scope}

/-- The columns of keys without placeholders have none. -/
theorem free_resolved (lacks : scope.Lacks isMark) {keys : List String}
    (each : ∀ key ∈ keys, Free key) {pairs : List (String × String)}
    (ok : resolved scope keys = .ok pairs) : ∀ pair ∈ pairs, Free pair.2 := by
  refine Outcome.forall_of_mapM ok fun key member pair ok => ?_
  obtain ⟨column, found, result⟩ := Outcome.bind_eq_ok.mp ok
  rw [← Outcome.pure_eq_ok.mp result, Free, lacks.marks_key markClass found]
  exact each key member

theorem free_label {r : Reduce} {separator : String} (free : Free r.property)
    (freeSeparator : Free separator) : Free (r.label separator) := by
  have subject : Free r.subject := by
    rw [Reduce.subject]
    split
    · rfl
    · rw [Free, marks_trim markClass.not_blank]
      exact free
  have suffix : Free r.aggregate.suffix := by cases r.aggregate <;> rfl
  exact free_append
    (free_append (marks_replaceEach_eq_nil subject freeSeparator) (rfl : Free "_")) suffix

theorem free_call (lacks : scope.Lacks isMark) {r : Reduce} {call : String} (free : Free r.property)
    (ok : r.call scope = .ok call) : Free call := by
  obtain ⟨column, found, result⟩ := Outcome.bind_eq_ok.mp ok
  have ofColumn : Free column := by
    rw [Reduce.column] at found
    split at found
    · rw [← Except.ok.inj found]
      rfl
    · rw [Free, lacks.marks_key markClass found]
      exact free
  have function : Free r.aggregate.function := by cases r.aggregate <;> rfl
  have distinct : Free (if r.aggregate.isDistinct then "DISTINCT " else "") := by split <;> rfl
  rw [← Outcome.pure_eq_ok.mp result]
  exact free_append (free_append (free_append (free_append function (rfl : Free "(")) distinct)
    ofColumn) (rfl : Free ")")

/-- What an aggregate brings to a read: a column, what its label stands for, and the condition on
the label. -/
theorem aggregated_eq_ok {separator : String} {counting : Bool} {r : Reduce} {a : Aggregated}
    (ok : aggregated scope separator counting r = .ok a) :
    ∃ call, r.call scope = .ok call ∧ a = {
      column := call ++ " AS " ++ r.label separator
      label := r.label separator
      target := r.target
      having := r.having.map fun c => ⟨r.label separator, c⟩ } := by
  obtain ⟨call, called, ok⟩ := Outcome.bind_eq_ok.mp ok
  refine ⟨call, called, ?_⟩
  split at ok
  · cases ok
  · exact (Outcome.pure_eq_ok.mp ok).symm

/-- The columns and the count of a projection that fits hold no placeholders. -/
theorem free_ofProjected (lacks : scope.Lacks isMark) {settings : Settings} {counting : Bool}
    {p : Projected} {projection : Projection} (fits : p.Fits) (separator : Free settings.separator)
    (stem : Free settings.stem) (ok : ofProjected scope settings counting p = .ok projection) :
    (∀ column ∈ projection.columns, Free column) ∧ Free projection.counted := by
  obtain ⟨distinct, aggregates, keys, ofDistinct, ofReduces, ofKeys, rfl⟩ := ofProjected_eq_ok ok
  have seconds : ∀ {pairs : List (String × String)}, (∀ pair ∈ pairs, Free pair.2) →
      ∀ column ∈ pairs.map Prod.snd, Free column := by
    intro pairs each column member
    obtain ⟨pair, isPair, rfl⟩ := List.mem_map.mp member
    exact each pair isPair
  have distinctFree := seconds (free_resolved lacks fits.distinct ofDistinct)
  have keysFree := seconds (free_resolved lacks fits.resultKeys ofKeys)
  have aggregatesFree : ∀ a ∈ aggregates, Free a.column := by
    refine Outcome.forall_of_mapM ofReduces fun r member a ok => ?_
    obtain ⟨call, called, rfl⟩ := aggregated_eq_ok ok
    exact free_append (free_append (free_call lacks (fits.reduces r member) called)
      (rfl : Free " AS ")) (free_label (fits.reduces r member) separator)
  constructor
  -- distinct keys in one column, then the aggregates, then the other keys
  · intro column member
    rcases List.mem_append.mp member with member | member
    · rcases List.mem_append.mp member with member | member
      · split at member
        · cases member
        · rw [List.mem_singleton.mp member]
          exact free_append (rfl : Free "DISTINCT ")
            (marks_joinWith_eq_nil (rfl : Free ", ") (Labels.free_columns stem distinctFree))
      · obtain ⟨a, isAggregate, rfl⟩ := List.mem_map.mp member
        exact aggregatesFree a isAggregate
    · exact Labels.free_columns stem keysFree column member
  · dsimp only
    split
    · rfl
    · exact free_append (free_append (rfl : Free "COUNT(DISTINCT ")
        (marks_joinWith_eq_nil (rfl : Free ", ") distinctFree)) (rfl : Free ")")

/-- A condition on an aggregate is the condition of a reduce, under its label. -/
theorem mem_having_ofProjected {settings : Settings} {counting : Bool} {p : Projected}
    {projection : Projection} (ok : ofProjected scope settings counting p = .ok projection)
    {h : Having} (member : h ∈ projection.having) :
    ∃ r ∈ p.reduces, ∃ c, r.having = some c ∧ h = ⟨r.label settings.separator, c⟩ := by
  obtain ⟨distinct, aggregates, keys, -, ofReduces, -, rfl⟩ := ofProjected_eq_ok ok
  obtain ⟨a, isAggregate, given⟩ := List.mem_filterMap.mp member
  refine Outcome.forall_of_mapM (P := fun a => ∀ h, a.having = some h →
    ∃ r ∈ p.reduces, ∃ c, r.having = some c ∧ h = ⟨r.label settings.separator, c⟩) ofReduces
    (fun r isReduce a ok h given => ?_) a isAggregate h given
  obtain ⟨call, -, rfl⟩ := aggregated_eq_ok ok
  obtain ⟨c, conditioned, rfl⟩ := Option.map_eq_some_iff.mp given
  exact ⟨r, isReduce, c, conditioned, rfl⟩

/-- The conditions on aggregates of a projection that fits hold no placeholders. -/
theorem having_ofProjected {settings : Settings} {counting : Bool} {p : Projected}
    {projection : Projection} (fits : p.Fits) (separator : Free settings.separator)
    (ok : ofProjected scope settings counting p = .ok projection) :
    ∀ h ∈ projection.having, h.Bare := by
  intro h member
  obtain ⟨r, isReduce, c, conditioned, rfl⟩ := mem_having_ofProjected ok member
  exact ⟨free_label (fits.reduces r isReduce) separator, fits.having r isReduce c conditioned⟩

end Projection

/-! ### Conditions on aggregates -/

namespace Having

variable {d : Dialect} {h : Having} {operand : Operand}

theorem free_literals {vs : List Value} {texts : List String}
    (frees : ∀ v ∈ vs, ∀ s ∈ v.texts, Free s) (ok : vs.mapM d.literal = .ok texts) :
    ∀ text ∈ texts, Free text :=
  Outcome.forall_of_mapM ok fun v member _ written =>
    LiteralStyle.free_literal (frees v member) written

/-- Operator and literals of a condition on an aggregate hold no placeholders. -/
theorem free_rest {text : String} (frees : ∀ v ∈ operand.values, ∀ s ∈ v.texts, Free s)
    (ok : h.rest d operand = .ok text) : Free text := by
  have operator : Free h.condition.predicate.sql := h.condition.predicate.free_sql
  have literal : ∀ {v text}, v ∈ operand.values → d.literal v = .ok text → Free text :=
    fun member written => LiteralStyle.free_literal (frees _ member) written
  unfold rest at ok
  -- the operand decides: a range, a list, a single value, or one of the wrong kind
  split at ok
  · obtain ⟨low, ofMin, ok⟩ := Outcome.bind_eq_ok.mp ok
    obtain ⟨high, ofMax, ok⟩ := Outcome.bind_eq_ok.mp ok
    rw [← Outcome.pure_eq_ok.mp ok]
    exact free_append (free_append (free_append (rfl : Free "BETWEEN ")
      (literal (by simp [Operand.values]) ofMin)) (rfl : Free " AND "))
      (literal (by simp [Operand.values]) ofMax)
  · next vs =>
    split at ok
    · obtain ⟨literals, written, ok⟩ := Outcome.bind_eq_ok.mp ok
      split at ok
      · cases ok
      · rw [← Outcome.pure_eq_ok.mp ok]
        have each := free_literals (fun v member => frees v (List.mem_of_mem_filter member)) written
        exact free_append (free_append (free_append operator (rfl : Free " ("))
          (marks_joinWith_eq_nil (rfl : Free ", ") each)) (rfl : Free ")")
    · cases ok
  · next v =>
    split at ok
    · obtain ⟨text, written, ok⟩ := Outcome.bind_eq_ok.mp ok
      rw [← Outcome.pure_eq_ok.mp ok]
      exact free_append (free_append operator (rfl : Free " "))
        (literal (by simp [Operand.values]) written)
    · cases ok
  · cases ok

theorem Bare.body (bare : h.Bare) {body? : Option String} (ok : h.body d = .ok body?) :
    ∀ text, body? = some text → Free text := by
  intro text given
  rw [Having.body] at ok
  split at ok
  · rw [← Except.ok.inj ok] at given
    cases given
  · next operand isOperand =>
    split at ok
    · rw [← Except.ok.inj ok] at given
      cases given
    · obtain ⟨rest, ofRest, ok⟩ := Outcome.bind_eq_ok.mp ok
      rw [← Outcome.pure_eq_ok.mp ok] at given
      rw [← Option.some.inj given]
      exact free_append (free_append bare.label (rfl : Free " "))
        (free_rest (bare.texts operand isOperand) ofRest)

/-- The HAVING clause holds no placeholders. -/
theorem free_clause {hs : List Having} {text : String} (each : ∀ h ∈ hs, h.Bare)
    (ok : clause d hs = .ok text) : Free text := by
  -- bodies that are there become terms, and terms a row
  obtain ⟨ts, ofTerms, rfl⟩ := Outcome.map_eq_ok.mp ok
  obtain ⟨bodies, ofBodies, result⟩ := Outcome.bind_eq_ok.mp ofTerms
  have bodiesFree : ∀ b ∈ bodies, ∀ text, b = some text → Free text :=
    Outcome.forall_of_mapM ofBodies fun h member _ ok => (each h member).body ok
  have termsFree : ∀ t ∈ ts, Free t.2 := by
    rw [← Outcome.pure_eq_ok.mp result]
    intro t member
    obtain ⟨⟨h, b⟩, isPair, given⟩ := List.mem_filterMap.mp member
    obtain ⟨text, isBody, rfl⟩ := Option.map_eq_some_iff.mp given
    exact bodiesFree b (List.of_mem_zip isPair).2 text isBody
  cases ts with
  | nil => rfl
  | cons t ts =>
    rw [List.forall_mem_cons] at termsFree
    refine free_append (free_append (rfl : Free "HAVING ") termsFree.1) (free_join ?_)
    intro text member
    obtain ⟨u, isTerm, rfl⟩ := List.mem_map.mp member
    exact free_append (free_append (free_append (rfl : Free " ") u.1.free_sql) (rfl : Free " "))
      (termsFree.2 u isTerm)

end Having

/-! ### The clauses of criteria -/

theorem Source.free_withoutFrom {script : String} (free : Free script) :
    Free (withoutFrom script) := by
  have trimmed : Free (trim script) := by
    rw [Free, marks_trim markClass.not_blank]
    exact free
  rw [withoutFrom]
  split
  · rw [Free, marks_trimStart markClass.not_blank, marks_ofList, List.filter_eq_nil_iff]
    rw [Free, marks_eq_nil_iff] at trimmed
    intro c member
    rw [trimmed c ((List.dropWhile_sublist _).subset member)]
    exact Bool.false_ne_true
  · exact trimmed

namespace Criteria

theorem given?_eq_some {text : Option String} {s : String} (given : given? text = some s) :
    text = some s :=
  (Option.filter_eq_some_iff.mp given).1

/-- A FROM clause: the resolved source, and a hint at the given index or nothing. -/
theorem fromClause_eq_ok {c : Criteria} {scope : Scope} {d : Dialect} {source : String}
    (ok : (c.fromClause scope d).outcome = .ok source) :
    ∃ script hint, scope.script (c.sourceScript scope.entity) = .ok script ∧
      (hint = "" ∨ ∃ index, given? c.forceIndex = some index ∧
        hint = "FORCE INDEX(" ++ trim index ++ ")") ∧
      source = Select.clauses ["FROM " ++ script, hint] := by
  rw [fromClause, Attempt.outcome_bind, Attempt.outcome_lift] at ok
  obtain ⟨script, resolved, ok⟩ := Outcome.bind_eq_ok.mp ok
  cases given : given? c.forceIndex with
  | none =>
    rw [given] at ok
    exact ⟨script, "", resolved, .inl rfl, (Except.ok.inj ok).symm⟩
  | some index =>
    rw [given] at ok
    cases d with
    | mysql => exact ⟨script, _, resolved, .inr ⟨index, rfl, rfl⟩, (Except.ok.inj ok).symm⟩
    | clickhouse => exact ⟨script, "", resolved, .inl rfl, (Except.ok.inj ok).symm⟩

namespace Fits

variable {c : Criteria} {catalog : Catalog} {settings : Settings} {s : Select} {scope : Scope}
  {e : Entity}

theorem sourceScript (fits : c.Fits catalog settings) (lacks : e.Lacks isMark) :
    Free (c.sourceScript e) := by
  rw [Criteria.sourceScript]
  split
  · exact lacks.scriptName markClass
  · refine Source.free_withoutFrom ?_
    cases given : c.source with
    | none => rfl
    | some script => exact fits.source script given

theorem scope_lacks (fits : c.Fits catalog settings) (found : catalog.lookup? c.entity = some e) :
    (c.scope catalog e).Lacks isMark where
  catalog := fits.names
  entity := fits.names e (Catalog.mem_of_lookup? found)

theorem projection (fits : c.Fits catalog settings) (lacks : scope.Lacks isMark)
    {projection : Projection} (ok : c.projection scope settings = .ok projection) :
    (∀ column ∈ projection.columns, Free column) ∧ Free projection.counted ∧
      ∀ h ∈ projection.having, h.Bare := by
  rw [Criteria.projection] at ok
  split at ok
  · next p given =>
    have of := fits.projected p given
    obtain ⟨columns, counted⟩ := Projection.free_ofProjected lacks of fits.separator fits.stem ok
    exact ⟨columns, counted, Projection.having_ofProjected of fits.separator ok⟩
  · rw [← Except.ok.inj ok]
    refine ⟨fun column member => ?_, rfl, fun h member => absurd member List.not_mem_nil⟩
    rw [List.mem_singleton.mp member]
    rfl

theorem fromClause (fits : c.Fits catalog settings) (lacks : scope.Lacks isMark) {d : Dialect}
    {source : String} (ok : (c.fromClause scope d).outcome = .ok source) : Free source := by
  obtain ⟨script, hint, resolved, ofHint, rfl⟩ := fromClause_eq_ok ok
  have scriptFree : Free script :=
    lacks.script_eq_nil markClass resolved (fits.sourceScript lacks.entity)
  have hintFree : Free hint := by
    rcases ofHint with rfl | ⟨index, given, rfl⟩
    · rfl
    · have indexFree : Free (trim index) := by
        rw [Free, marks_trim markClass.not_blank]
        exact fits.forceIndex index (given?_eq_some given)
      exact free_append (free_append (rfl : Free "FORCE INDEX(") indexFree) (rfl : Free ")")
  refine Select.free_clauses fun part member => ?_
  rcases List.mem_cons.mp member with rfl | member
  · exact free_append (rfl : Free "FROM ") scriptFree
  · rw [List.mem_singleton.mp member]
    exact hintFree

theorem groupByClause (fits : c.Fits catalog settings) (lacks : scope.Lacks isMark)
    {groupBy : String} (ok : (c.groupByClause scope).outcome = .ok groupBy) : Free groupBy := by
  rw [Criteria.groupByClause] at ok
  split at ok
  · rw [← Except.ok.inj ok]
    rfl
  · next keys given =>
    split at ok
    · rw [← Except.ok.inj ok]
      rfl
    · simp only [Attempt.outcome_bind, Attempt.outcome_lift, Attempt.outcome_pure] at ok
      obtain ⟨columns, resolved, ok⟩ := Outcome.bind_eq_ok.mp ok
      rw [← Except.ok.inj ok]
      refine free_append (rfl : Free "GROUP BY ") (marks_joinWith_eq_nil (rfl : Free ", ") ?_)
      refine Outcome.forall_of_mapM resolved fun key member column found => ?_
      obtain ⟨piece, isPiece, rfl⟩ := List.mem_map.mp (List.mem_of_mem_filter member)
      rw [lacks.marks_key markClass found, marks_trim markClass.not_blank]
      exact marks_splitAll_eq_nil (fits.groupBy keys (given?_eq_some given)) piece isPiece

theorem orderByClause (fits : c.Fits catalog settings) (lacks : scope.Lacks isMark)
    {orderBy : String} (ok : c.orderByClause scope = .ok orderBy) : Free orderBy := by
  rw [Criteria.orderByClause] at ok
  split at ok
  · rw [← Outcome.pure_eq_ok.mp ok]
    rfl
  · obtain ⟨sorts, resolved, ok⟩ := Outcome.bind_eq_ok.mp ok
    rw [← Outcome.pure_eq_ok.mp ok]
    split
    · rfl
    · refine free_append (rfl : Free "ORDER BY ") (marks_joinWith_eq_nil (rfl : Free ", ") ?_)
      refine Outcome.forall_of_mapM resolved fun sort member text ok => ?_
      obtain ⟨script, found, ok⟩ := Outcome.bind_eq_ok.mp ok
      rw [← Outcome.pure_eq_ok.mp ok]
      have keyFree := fits.sorts sort (List.mem_of_mem_filter member)
      have directionFree : Free sort.effective.name := by cases sort.effective <;> rfl
      exact free_append (free_append (lacks.script_eq_nil markClass found keyFree)
        (rfl : Free " ")) directionFree

/-- No clause of a read but its conditions holds a placeholder. -/
theorem bare (fits : c.Fits catalog settings) (ok : (c.compile catalog settings).outcome = .ok s) :
    s.Bare := by
  obtain ⟨e, p, source, filter, groupBy, having, orderBy, found, ofProjection, ofSource, -,
    ofGroupBy, ofHaving, ofOrderBy, rfl⟩ := compile_eq_ok ok
  have lacks := fits.scope_lacks found
  obtain ⟨columns, counted, aggregates⟩ := fits.projection lacks ofProjection
  exact {
    columns := marks_joinWith_eq_nil (rfl : Free ", ") columns
    counted
    countAlias := by
      intro label given
      dsimp only at given
      split at given
      · cases given
      · rw [← Option.some.inj given]
        exact fits.countAlias
    source := fits.fromClause lacks ofSource
    groupBy := fits.groupByClause lacks ofGroupBy
    having := Having.free_clause aggregates ofHaving
    orderBy := fits.orderByClause lacks ofOrderBy }

/-- Pruning keeps the rule for leaves, so the conditions of a read fit. -/
theorem effectiveConditions (fits : c.Fits catalog settings) (scope : Scope) :
    Condition.Fit (c.effectiveConditions scope) := by
  rw [Criteria.effectiveConditions]
  split
  · exact fits.conditions.pruned scope
  · exact fits.conditions

end Fits

end Criteria

end BoundQuery
