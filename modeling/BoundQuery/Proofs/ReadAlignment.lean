import BoundQuery.Proofs.ReadClauses
import BoundQuery.Proofs.Spelled

/-!
# Placeholders and values of reads

A read has two statements and one list of values. Both statements have a placeholder for each value,
in the order of the values: filled with the texts of the values, they are what a rendering without
placeholders gives.

## Main definitions

* `Criteria.spelled`, the two statements with their values written in place

## Main results

* `Select.fill_clauses` — clauses around conditions that fit are filled by filling the conditions
* `Criteria.fill_statements` — filled statements are the spelled ones
-/

namespace BoundQuery

open Text Placeholder

/-- Texts in a row, seen from one of them. -/
theorem Text.joinWith_around (separator s : String) (before after : List String) :
    joinWith separator (before ++ s :: after) =
      String.join (before.map (· ++ separator)) ++ s ++
        String.join (after.map (separator ++ ·)) := by
  induction before with
  | nil =>
    rw [List.nil_append, joinWith_cons, List.map_nil, String.join_nil, String.empty_append]
  | cons b before ih =>
    rw [List.cons_append, joinWith, ih, List.map_cons, String.join_cons]
    · simp only [String.append_assoc]
    · simp

namespace Select

variable {lit : Value → String} {f : Fragment} {before after : List String}

/-- Clauses in a row, seen from one that is not left out. -/
theorem clauses_around {s : String} (given : s ≠ "") (before after : List String) :
    clauses (before ++ s :: after) =
      String.join ((before.filter fun c => !c.isEmpty).map (· ++ " ")) ++ s ++
        String.join ((after.filter fun c => !c.isEmpty).map (" " ++ ·)) := by
  have kept : (!s.isEmpty) = true := by simpa using given
  rw [clauses, List.filter_append,
    List.filter_cons_of_pos (p := fun c : String => !c.isEmpty) kept, joinWith_around]

/-- Clauses around conditions that fit are filled by filling the conditions. A WHERE clause stands
in both rows or in neither. -/
theorem fill_clauses (fits : f.Fits) (led : f = [] ∨ ∃ g, f = .text "WHERE " :: g)
    (ofBefore : ∀ part ∈ before, Free part) (ofAfter : ∀ part ∈ after, Free part) :
    fill lit (clauses (before ++ f.sql :: after)) f.values =
      (clauses (before ++ f.filled lit :: after), []) := by
  -- empty conditions are left out; others are not, neither before nor after they are filled
  rcases led with rfl | ⟨g, rfl⟩
  · refine fill_of_free (free_clauses ?_) []
    rw [List.forall_mem_append, List.forall_mem_cons]
    exact ⟨ofBefore, rfl, ofAfter⟩
  · have free : ∀ {parts : List String} {wrap : String → String}, (∀ part ∈ parts, Free part) →
        (∀ part, Free part → Free (wrap part)) →
        Free (String.join ((parts.filter fun c => !c.isEmpty).map wrap)) := by
      intro parts wrap each wrapped
      refine free_join fun text member => ?_
      obtain ⟨part, isPart, rfl⟩ := List.mem_map.mp member
      exact wrapped part (each part (List.mem_of_mem_filter isPart))
    have left := free ofBefore fun part free => free_append free (rfl : Free " ")
    have right := free ofAfter fun part free => free_append (rfl : Free " ") free
    have sqlGiven : Fragment.sql (.text "WHERE " :: g) ≠ "" := by
      simp [Piece.sql]
    have filledGiven : Fragment.filled lit (.text "WHERE " :: g) ≠ "" := by
      simp [Piece.filled]
    rw [clauses_around sqlGiven, clauses_around filledGiven, fill_append, fill_append,
      fill_of_free left, Fragment.fill_all fits, fill_of_free right]

/-- The marks of clauses are those of their parts: a part that is left out has none. -/
theorem marks_clauses (parts : List String) :
    marks isMark (clauses parts) = parts.flatMap (marks isMark) := by
  rw [clauses, marks_joinWith (rfl : Free " ")]
  induction parts with
  | nil => rfl
  | cons part parts ih =>
    rw [List.filter_cons, List.flatMap_cons]
    split
    · rw [List.flatMap_cons, ih]
    · next empty =>
      have same : part = "" := by simpa using empty
      rw [ih, same, marks_empty, List.nil_append]

/-- A statement that has placeholders in its conditions only is filled by filling the conditions,
with nothing left. -/
theorem fill_statement {head : String} (free : Free head) (fits : f.Fits)
    (led : f = [] ∨ ∃ g, f = .text "WHERE " :: g) (ofBefore : ∀ part ∈ before, Free part)
    (ofAfter : ∀ part ∈ after, Free part) (frees : ∀ v, Free (lit v)) :
    fill lit (head ++ clauses (before ++ f.sql :: after)) f.values =
        (head ++ clauses (before ++ f.filled lit :: after), []) ∧
      Free (head ++ clauses (before ++ f.filled lit :: after)) ∧
      count (head ++ clauses (before ++ f.sql :: after)) = f.values.length := by
  have filled : fill lit (head ++ clauses (before ++ f.sql :: after)) f.values =
      (head ++ clauses (before ++ f.filled lit :: after), []) := by
    rw [fill_append, fill_of_free free, fill_clauses fits led ofBefore ofAfter]
  have enough : count (head ++ clauses (before ++ f.sql :: after)) = f.values.length := by
    rw [← Fragment.count_sql fits, count, count, marks_append, marks_clauses, List.flatMap_append,
      List.flatMap_cons, List.flatMap_eq_nil_iff.mpr ofBefore, List.flatMap_eq_nil_iff.mpr ofAfter,
      free, List.nil_append, List.nil_append, List.append_nil]
  have rest := free_fill frees enough
  rw [filled] at rest
  exact ⟨filled, rest, enough⟩

end Select

/-- Conditions of a statement are empty or led by WHERE. -/
theorem Filter.led_compile {f : Filter} {cs : List Condition} {g : Fragment}
    (ok : f.compile .whereFirst cs = .ok g) : g = [] ∨ ∃ h, g = .text "WHERE " :: h := by
  obtain ⟨ts, -, rfl⟩ := compile_eq_ok.mp ok
  cases ts with
  | nil => exact .inl rfl
  | cons t ts => exact .inr ⟨_, rfl⟩

namespace Criteria

/-- The SELECT statement of a read and, unless it is left out, the COUNT statement, with their
values written in place. -/
def spelled (lit : Value → String) (c : Criteria) (catalog : Catalog) (settings : Settings) :
    Except CompileError (String × Option String) := do
  let some e := catalog.lookup? c.entity | throw (.unresolvedEntity c.entity)
  let scope := c.scope catalog e
  let projection ← c.projection scope settings
  let source ← (c.fromClause scope settings.dialect).outcome
  let conditions ← Filter.spelled ⟨scope, settings.dialect⟩ lit .whereFirst
    (c.effectiveConditions scope)
  let groupBy ← (c.groupByClause scope).outcome
  let having ← Having.clause settings.dialect projection.having
  let orderBy ← c.orderByClause scope
  let select := "SELECT " ++ joinWith ", " projection.columns ++ " " ++
    Select.clauses [source, conditions, groupBy, having, orderBy]
  let counting := "SELECT " ++ projection.counted ++ " " ++ settings.countAlias ++ " " ++
    Select.clauses [source, conditions]
  return (select, if c.ignoresTotal then none else some counting)

variable {lit : Value → String} {c : Criteria} {catalog : Catalog} {settings : Settings}
  {s : Select}

/-- A read that compiles can be spelled out: its conditions are filled, and all else is the
same. -/
theorem spelled_of_compile (ok : (c.compile catalog settings).outcome = .ok s) :
    c.spelled lit catalog settings = .ok
      ("SELECT " ++ s.columns ++ " " ++
        Select.clauses [s.source, s.filter.filled lit, s.groupBy, s.having, s.orderBy],
      s.countAlias.map fun label => "SELECT " ++ s.counted ++ " " ++ label ++ " " ++
        Select.clauses [s.source, s.filter.filled lit]) := by
  obtain ⟨e, projection, source, filter, groupBy, having, orderBy, found, ofProjection, ofSource,
    ofFilter, ofGroupBy, ofHaving, ofOrderBy, rfl⟩ := compile_eq_ok ok
  have written : Filter.spelled ⟨c.scope catalog e, settings.dialect⟩ lit .whereFirst
      (c.effectiveConditions (c.scope catalog e)) = .ok (filter.filled lit) := by
    rw [Filter.spelled_eq]
    exact Outcome.map_eq_ok.mpr ⟨filter, ofFilter, rfl⟩
  rw [spelled, found]
  refine Outcome.bind_eq_ok.mpr ⟨projection, ofProjection, ?_⟩
  refine Outcome.bind_eq_ok.mpr ⟨source, ofSource, ?_⟩
  refine Outcome.bind_eq_ok.mpr ⟨_, written, ?_⟩
  refine Outcome.bind_eq_ok.mpr ⟨groupBy, ofGroupBy, ?_⟩
  refine Outcome.bind_eq_ok.mpr ⟨having, ofHaving, ?_⟩
  refine Outcome.bind_eq_ok.mpr ⟨orderBy, ofOrderBy, ?_⟩
  cases c.ignoresTotal with
  | true => rfl
  | false => rfl

/-- The conditions of a compiled read fit, and WHERE leads them. -/
theorem Fits.filter (fits : c.Fits catalog settings)
    (ok : (c.compile catalog settings).outcome = .ok s) :
    s.filter.Fits ∧ (s.filter = [] ∨ ∃ g, s.filter = .text "WHERE " :: g) := by
  obtain ⟨e, -, -, filter, -, -, -, found, -, -, ofFilter, -, -, -, rfl⟩ := compile_eq_ok ok
  exact ⟨Filter.fits_compile (fits.scope_lacks found) (fits.effectiveConditions _) ofFilter,
    Filter.led_compile ofFilter⟩

/-- Take criteria with placeholders in scripts of conditions only, one for each value that the
script binds, and write values as texts without placeholders. Then each statement of the compiled
read, with its `k`-th placeholder replaced by the text of the `k`-th value, is the spelled
statement; no placeholder and no value is left, so each statement has as many placeholders as there
are values. -/
theorem fill_statements (fits : c.Fits catalog settings) (frees : ∀ v, Free (lit v))
    (ok : (c.compile catalog settings).outcome = .ok s) :
    ∃ select counting?, c.spelled lit catalog settings = .ok (select, counting?) ∧
      fill lit s.sql s.values = (select, []) ∧ Free select ∧ count s.sql = s.values.length ∧
      s.countSql?.map (fill lit · s.values) = counting?.map (·, []) ∧
      (∀ counting, counting? = some counting → Free counting) ∧
      (∀ sql, s.countSql? = some sql → count sql = s.values.length) := by
  have bare := fits.bare ok
  obtain ⟨fit, led⟩ := fits.filter ok
  -- the source stands before the conditions in both statements, the other clauses behind them
  have before : ∀ part ∈ [s.source], Free part := by
    simpa using bare.source
  have after : ∀ part ∈ [s.groupBy, s.having, s.orderBy], Free part := by
    simpa using ⟨bare.groupBy, bare.having, bare.orderBy⟩
  have none : ∀ part ∈ ([] : List String), Free part := by
    simp
  have selectHead : Free ("SELECT " ++ s.columns ++ " ") :=
    free_append (free_append (rfl : Free "SELECT ") bare.columns) (rfl : Free " ")
  obtain ⟨filled, free, enough⟩ := Select.fill_statement selectHead fit led before after frees
  refine ⟨_, _, spelled_of_compile ok, filled, free, enough, ?_⟩
  rw [Select.countSql?]
  cases labelled : s.countAlias with
  | none => simp
  | some label =>
    have countHead : Free ("SELECT " ++ s.counted ++ " " ++ label ++ " ") :=
      free_append (free_append (free_append (free_append (rfl : Free "SELECT ") bare.counted)
        (rfl : Free " ")) (bare.countAlias label labelled)) (rfl : Free " ")
    obtain ⟨filled, free, enough⟩ := Select.fill_statement countHead fit led before none frees
    refine ⟨congrArg some filled, ?_, ?_⟩
    · intro counting same
      rw [← Option.some.inj same]
      exact free
    · intro sql same
      rw [← Option.some.inj same]
      exact enough

end Criteria

namespace Shop

/-- A catalog of one entity. -/
def catalog : Catalog := ⟨[{
  name := "Order"
  table := "t_order"
  properties := .ofList [("id", ⟨"id", .integer, false, false⟩),
    ("status", ⟨"order_status", .string, false, false⟩),
    ("total", ⟨"total", .float, false, false⟩)] }]⟩

/-- A read with a bound constant, a list with one bound member, a script, a range, and a condition
that holds its column's default. -/
def openOrders : Criteria where
  entity := "Order"
  source := some "FROM order o"
  conditions := [
    .withValue .ne "status" (.constant "PAID"),
    .group [.oneOf "id" [.int 1, .text "a?", .null],
      (Condition.script "o.total > ? OR status <> ?" [.int 5, .text "NEW"]).joinedBy (some .or)],
    .withValue .eq "total" (.int 0),
    .between "o.total" (.int 2) (.int 9)]
  projected := some { resultKeys := ["id", "o.total"], reduces := [⟨"total", .sum, none⟩] }

/-- Numbers as they are, all else as one word. -/
def plain : Value → String
  | .int i => Json.intText i.toInt
  | _ => "word"

theorem free_plain (v : Value) : Free (plain v) := by
  cases v with
  | int i => exact free_of_figures Json.figures_intText
  | _ => exact (rfl : Free "word")

theorem fits_openOrders : openOrders.Fits catalog {} where
  names := by
    intro e member
    rw [List.mem_singleton.mp member]
    exact ⟨rfl, rfl, by decide⟩
  countAlias := rfl
  separator := rfl
  stem := rfl
  source script given := by
    rw [← Option.some.inj given]
    rfl
  groupBy keys given := nomatch given
  forceIndex index given := nomatch given
  sorts sort member := nomatch member
  projected p given := by
    rw [← Option.some.inj given]
    exact ⟨by decide, by decide, by simp; rfl, by simp⟩
  conditions := by
    have leaves : Condition.leaves openOrders.conditions = [
        .withValue .ne "status" (.constant "PAID"),
        .oneOf "id" [.int 1, .text "a?", .null],
        (Condition.script "o.total > ? OR status <> ?" [.int 5, .text "NEW"]).joinedBy (some .or),
        .withValue .eq "total" (.int 0),
        .between "o.total" (.int 2) (.int 9)] := by rfl
    rw [Condition.Fit, leaves]
    simp only [List.forall_mem_cons]
    refine ⟨⟨rfl, ?_⟩, rfl, .inr rfl, ⟨rfl, ?_⟩, rfl, by simp⟩
    · rintro v e given inlined
      cases given
      cases inlined
    · rintro v e given inlined
      cases given
      cases inlined

end Shop

/-- The statements of a read of open orders, filled. -/
theorem Criteria.fill_statements_openOrders :
    ∃ s, (Shop.openOrders.compile Shop.catalog {}).outcome = .ok s ∧
      fill Shop.plain s.sql s.values =
        ("SELECT SUM(total) AS total_sum, id, o.total AS c1 FROM t_order o WHERE " ++
          "order_status <> word AND (id IN (1, word) OR o.total > 5 OR order_status <> word) " ++
          "AND o.total BETWEEN 2 AND 9", []) ∧
      count s.sql = s.values.length ∧
      s.countSql?.map (fill Shop.plain · s.values) =
        some ("SELECT COUNT(*) count FROM t_order o WHERE " ++
          "order_status <> word AND (id IN (1, word) OR o.total > 5 OR order_status <> word) " ++
          "AND o.total BETWEEN 2 AND 9", []) := by
  obtain ⟨s, ok⟩ := Outcome.exists_of_isOk (x := (Shop.openOrders.compile Shop.catalog {}).outcome)
    (by decide +kernel)
  obtain ⟨select, counting?, spelled, filled, -, enough, counted, -, -⟩ :=
    fill_statements Shop.fits_openOrders Shop.free_plain ok
  have spelledText : (Shop.openOrders.spelled Shop.plain Shop.catalog {}).toOption =
      some (select, counting?) := by
    rw [spelled]
    rfl
  refine ⟨s, ok, ?_, enough, ?_⟩
  · have text : select =
        ((Shop.openOrders.spelled Shop.plain Shop.catalog {}).toOption.map Prod.fst).getD "" := by
      rw [spelledText]
      rfl
    rw [filled, text]
    exact Prod.ext (by decide +kernel) rfl
  · have text : counting? =
        (Shop.openOrders.spelled Shop.plain Shop.catalog {}).toOption.bind Prod.snd := by
      rw [spelledText]
      rfl
    rw [counted, text]
    refine Option.map_eq_some_iff.mpr ⟨_, ?_, rfl⟩
    decide +kernel

end BoundQuery
