import BoundQuery.Proofs.ResultLabels

/-!
# Select lists and what is counted

An explicit projection writes one item for each distinct key, then one for each aggregate, then one
for each plain key. An item is an expression with the label that was generated for it, if any. A
COUNT statement beside it counts the expressions of the distinct keys, and only these.

## Main definitions

* `Projection.Item`, an expression with its label
* `Projection.Item.OfKey`, `Projection.Item.OfReduce`, the items of keys and of aggregates

## Main results

* `Projection.items_of_ofProjected` — the select list item by item
* `Criteria.countSql_of_distinct` — what is counted beside distinct keys
-/

namespace BoundQuery

open Text

namespace Text

/-- Texts that were joined behind a word before are joined as if they stood in the row
themselves, with the word in front. -/
theorem joinWith_joinWith_cons (separator word : String) {texts : List String} (given : texts ≠ [])
    (others : List String) :
    joinWith separator ((word ++ joinWith separator texts) :: others) =
      word ++ joinWith separator (texts ++ others) := by
  cases texts with
  | nil => exact absurd rfl given
  | cons s texts =>
    rw [joinWith_cons, joinWith_cons, List.cons_append, joinWith_cons, List.map_append,
      String.join_append, String.append_assoc, String.append_assoc]

end Text

/-! ### Items -/

/-- The columns that need a label, and only these, have one. -/
theorem Labels.Labelling.isSome_label {stem : String} {l l' : Labels}
    {os : List Projection.Occurrence} (run : Labelling stem l os l') :
    ∀ o ∈ os, o.label.isSome = needsLabel o.column := by
  induction run with
  | done l => simp
  | bare plain _ ih => exact List.forall_mem_cons.mpr ⟨plain.symm, ih⟩
  | labelled needs _ ih => exact List.forall_mem_cons.mpr ⟨needs.symm, ih⟩

namespace Projection

open Labels

/-- An entry of a select list: an expression, with the label that was generated for it. -/
structure Item where
  expression : String
  label : Option String

namespace Item

/-- The item as it is written. -/
def text (i : Item) : String :=
  match i.label with
  | none => i.expression
  | some label => i.expression ++ " AS " ++ label

/-- The item of a requested key: its column, with a numbered label where it needs one. -/
structure OfKey (scope : Scope) (settings : Settings) (key : String) (i : Item) : Prop where
  expression : scope.key key = .ok i.expression
  label : i.label.isSome = needsLabel i.expression
  generated : ∀ label, i.label = some label → ∃ n, label = numbered settings.stem n

/-- The item of an aggregate: its call, with the label of the aggregate. -/
structure OfReduce (scope : Scope) (settings : Settings) (r : Reduce) (i : Item) : Prop where
  expression : r.call scope = .ok i.expression
  label : i.label = some (r.label settings.separator)

end Item

/-- The item of an occurrence. -/
def Occurrence.item (o : Occurrence) : Item :=
  ⟨o.column, o.label⟩

variable {scope : Scope} {settings : Settings} {counting : Bool} {p : Projected}
  {projection : Projection}

/-- The columns of requested keys as items. -/
theorem items_of_resolved {keys : List String} {pairs : List (String × String)}
    (ok : resolved scope keys = .ok pairs) (l : Labels) :
    ∃ items : List Item, List.Forall₂ (Item.OfKey scope settings) keys items ∧
      (l.columns settings.stem (pairs.map Prod.snd)).1 = items.map Item.text ∧
      pairs.map Prod.snd = items.map Item.expression := by
  obtain ⟨os, same, texts, run⟩ := labelling_columns settings.stem l pairs
  obtain ⟨rfl, columns⟩ := requested_of_resolved ok same
  refine ⟨os.map Occurrence.item, ?_, ?_, ?_⟩
  · rw [List.forall₂_map_left_iff, List.forall₂_map_right_iff, List.forall₂_same]
    exact fun o member =>
      ⟨columns o member, run.isSome_label o member, (run.generated o member).2⟩
  · rw [texts, List.map_map]
    rfl
  · rw [← same, List.map_map, List.map_map]
    rfl

/-- The aggregates as items. -/
theorem items_of_aggregated {reduces : List Reduce} {as : List Aggregated}
    (ok : reduces.mapM (aggregated scope settings.separator counting) = .ok as) :
    ∃ items : List Item, List.Forall₂ (Item.OfReduce scope settings) reduces items ∧
      as.map Aggregated.column = items.map Item.text := by
  have each := Outcome.mapM_eq_ok_iff.mp ok
  clear ok
  induction each with
  | nil => exact ⟨[], .nil, rfl⟩
  | @cons r a _ _ first _ ih =>
    obtain ⟨items, rest, texts⟩ := ih
    obtain ⟨call, called, rfl⟩ := aggregated_eq_ok first
    refine ⟨⟨call, some (r.label settings.separator)⟩ :: items, .cons ⟨called, rfl⟩ rest, ?_⟩
    rw [List.map_cons, List.map_cons, texts]
    rfl

/-- The select list item by item: distinct keys, aggregates, plain keys. The expressions of the
distinct keys are counted, or all rows where there are no such keys. -/
theorem items_of_ofProjected (ok : ofProjected scope settings counting p = .ok projection) :
    ∃ distinct aggregates plain : List Item,
      List.Forall₂ (Item.OfKey scope settings) p.distinct distinct ∧
      List.Forall₂ (Item.OfReduce scope settings) p.reduces aggregates ∧
      List.Forall₂ (Item.OfKey scope settings) p.resultKeys plain ∧
      joinWith ", " projection.columns = (if p.distinct = [] then "" else "DISTINCT ") ++
        joinWith ", " ((distinct ++ aggregates ++ plain).map Item.text) ∧
      projection.counted = if p.distinct = [] then "COUNT(*)"
        else "COUNT(DISTINCT " ++ joinWith ", " (distinct.map Item.expression) ++ ")" := by
  obtain ⟨distinctPairs, as, plainPairs, ofDistinct, ofReduces, ofKeys, rfl⟩ :=
    ofProjected_eq_ok ok
  obtain ⟨distinct, isDistinct, distinctTexts, counted⟩ := items_of_resolved ofDistinct
    (recordKeys (recordKeys { aliases := scope.aliases } distinctPairs) plainPairs)
  obtain ⟨aggregates, areAggregates, aggregateTexts⟩ := items_of_aggregated ofReduces
  obtain ⟨plain, arePlain, plainTexts, -⟩ := items_of_resolved ofKeys _
  refine ⟨distinct, aggregates, plain, isDistinct, areAggregates, arePlain, ?_⟩
  dsimp only
  rw [distinctTexts, aggregateTexts, plainTexts, counted]
  by_cases none : p.distinct = []
  · rw [none] at isDistinct
    obtain rfl := List.forall₂_nil_left_iff.mp isDistinct
    obtain rfl : distinctPairs = [] := List.map_eq_nil_iff.mp counted
    rw [if_pos none, if_pos none, String.empty_append, List.nil_append, List.map_append]
    exact ⟨rfl, rfl⟩
  · have given : distinct ≠ [] := by
      rintro rfl
      exact none (List.forall₂_nil_right_iff.mp isDistinct)
    have some : distinctPairs.isEmpty = false := by
      cases distinctPairs with
      | nil => exact absurd (List.map_eq_nil_iff.mp counted.symm) given
      | cons pair pairs => rfl
    have givenTexts : distinct.map Item.text ≠ [] := by simpa using given
    have first := joinWith_joinWith_cons ", " "DISTINCT " givenTexts
      (aggregates.map Item.text ++ plain.map Item.text)
    rw [some, if_neg none, if_neg none, List.map_append, List.map_append, List.append_assoc,
      List.append_assoc, ← first]
    exact ⟨rfl, rfl⟩

end Projection

/-! ### What is counted -/

namespace Criteria

open Projection

variable {c : Criteria} {catalog : Catalog} {settings : Settings} {s : Select}

theorem projection_of_projected {p : Projected} (projected : c.projected = some p) (scope : Scope) :
    c.projection scope settings = ofProjected scope settings (!c.ignoresTotal) p := by
  rw [projection, projected]

/-- Beside distinct keys the COUNT statement counts the columns of these keys: the first items of
the select list, without their labels. They are all of the select list exactly when the projection
has neither aggregates nor plain keys. -/
theorem countSql_of_distinct (ok : (c.compile catalog settings).outcome = .ok s) {p : Projected}
    (projected : c.projected = some p) (given : p.distinct ≠ [])
    (counting : c.ignoresTotal = false) :
    ∃ e, catalog.lookup? c.entity = some e ∧
    ∃ distinct aggregates plain : List Item,
      List.Forall₂ (Item.OfKey (c.scope catalog e) settings) p.distinct distinct ∧
      List.Forall₂ (Item.OfReduce (c.scope catalog e) settings) p.reduces aggregates ∧
      List.Forall₂ (Item.OfKey (c.scope catalog e) settings) p.resultKeys plain ∧
      s.sql = "SELECT DISTINCT " ++ joinWith ", " ((distinct ++ aggregates ++ plain).map Item.text)
        ++ " " ++ Select.clauses [s.source, s.filter.sql, s.groupBy, s.having, s.orderBy] ∧
      s.countSql? = some ("SELECT COUNT(DISTINCT " ++ joinWith ", " (distinct.map Item.expression)
        ++ ") " ++ settings.countAlias ++ " " ++ Select.clauses [s.source, s.filter.sql]) ∧
      (distinct.map Item.expression = (distinct ++ aggregates ++ plain).map Item.expression ↔
        p.reduces = [] ∧ p.resultKeys = []) := by
  obtain ⟨e, projection, source, filter, groupBy, having, orderBy, found, ofProjection, -, -, -, -,
    -, rfl⟩ := compile_eq_ok ok
  rw [projection_of_projected projected] at ofProjection
  obtain ⟨distinct, aggregates, plain, areDistinct, areAggregates, arePlain, columns, counted⟩ :=
    items_of_ofProjected ofProjection
  rw [if_neg given] at columns counted
  refine ⟨e, found, distinct, aggregates, plain, areDistinct, areAggregates, arePlain, ?_, ?_, ?_⟩
  · rw [Select.sql, columns, ← String.append_assoc]
    rfl
  · simp only [Select.countSql?, counted, counting, Bool.false_eq_true, if_false, Option.map_some,
      show "SELECT COUNT(DISTINCT " = "SELECT " ++ "COUNT(DISTINCT " from rfl,
      show ") " = ")" ++ " " from rfl, String.append_assoc]
  · rw [List.map_append, List.map_append, List.append_assoc, List.self_eq_append_right,
      List.append_eq_nil_iff, List.map_eq_nil_iff, List.map_eq_nil_iff]
    refine and_congr ⟨?_, ?_⟩ ⟨?_, ?_⟩
    · rintro rfl
      exact List.forall₂_nil_right_iff.mp areAggregates
    · intro none
      exact List.forall₂_nil_left_iff.mp (none ▸ areAggregates)
    · rintro rfl
      exact List.forall₂_nil_right_iff.mp arePlain
    · intro none
      exact List.forall₂_nil_left_iff.mp (none ▸ arePlain)

end Criteria

namespace Shop

/-- Distinct keys, one of them dotted, beside an aggregate and a plain key. -/
def mixed : Projected where
  distinct := ["o.status", "id"]
  reduces := [⟨"*", .count, none⟩]
  resultKeys := ["o.total"]

def states : Criteria where
  entity := "Order"
  source := some "order o"
  projected := some mixed

/-- A distinct key beside a plain one. -/
def statesById : Criteria where
  entity := "Order"
  projected := some { distinct := ["status"], resultKeys := ["id"] }

end Shop

/-- The count of distinct orders leaves out the aggregate and the plain key. -/
theorem Criteria.countSql_of_distinct_states :
    ∃ s, (Shop.states.compile Shop.catalog {}).outcome = .ok s ∧
      s.sql = "SELECT DISTINCT o.order_status AS c0, id, COUNT(*) AS all_count, o.total AS c2 " ++
        "FROM t_order o" ∧
      s.countSql? = some "SELECT COUNT(DISTINCT o.order_status, id) count FROM t_order o" ∧
      ∃ counted selected : List Projection.Item,
        counted.map Projection.Item.expression ≠ selected.map Projection.Item.expression ∧
        s.sql = "SELECT DISTINCT " ++ joinWith ", " (selected.map Projection.Item.text) ++ " " ++
          Select.clauses [s.source, s.filter.sql, s.groupBy, s.having, s.orderBy] ∧
        s.countSql? = some ("SELECT COUNT(DISTINCT " ++
          joinWith ", " (counted.map Projection.Item.expression) ++ ") count " ++
          Select.clauses [s.source, s.filter.sql]) := by
  have texts : (Shop.states.compile Shop.catalog {}).outcome.toOption.map
      (fun s => (s.sql, s.countSql?)) =
      some ("SELECT DISTINCT o.order_status AS c0, id, COUNT(*) AS all_count, o.total AS c2 " ++
        "FROM t_order o",
        some "SELECT COUNT(DISTINCT o.order_status, id) count FROM t_order o") := by
    decide +kernel
  obtain ⟨s, ok⟩ := Outcome.exists_of_isOk
    (x := (Shop.states.compile Shop.catalog {}).outcome) (by decide +kernel)
  rw [ok] at texts
  obtain ⟨sql, count⟩ := Prod.mk.inj (Option.some.inj texts)
  obtain ⟨e, -, distinct, aggregates, plain, -, -, -, selects, counts, whole⟩ :=
    countSql_of_distinct ok rfl (List.cons_ne_nil _ _) rfl
  refine ⟨s, ok, sql, count, distinct, distinct ++ aggregates ++ plain, ?_, selects, ?_⟩
  · intro same
    cases (whole.mp same).1
  · rw [counts]
    simp only [show ") count " = ") " ++ ("count" ++ " ") from rfl, String.append_assoc]

/-- The rows are told apart by both keys, and counted by one. -/
theorem Criteria.countSql_leaves_out_plain_key :
    ∃ s, (Shop.statesById.compile Shop.catalog {}).outcome = .ok s ∧
      s.sql = "SELECT DISTINCT order_status, id FROM t_order" ∧
      s.countSql? = some "SELECT COUNT(DISTINCT order_status) count FROM t_order" ∧
      s.countSql? ≠ some "SELECT COUNT(DISTINCT order_status, id) count FROM t_order" := by
  have texts : (Shop.statesById.compile Shop.catalog {}).outcome.toOption.map
      (fun s => (s.sql, s.countSql?)) =
      some ("SELECT DISTINCT order_status, id FROM t_order",
        some "SELECT COUNT(DISTINCT order_status) count FROM t_order") := by
    decide +kernel
  obtain ⟨s, ok⟩ := Outcome.exists_of_isOk
    (x := (Shop.statesById.compile Shop.catalog {}).outcome) (by decide +kernel)
  rw [ok] at texts
  obtain ⟨sql, count⟩ := Prod.mk.inj (Option.some.inj texts)
  refine ⟨s, ok, sql, count, ?_⟩
  rw [show s.countSql? = _ from count]
  decide

end BoundQuery
