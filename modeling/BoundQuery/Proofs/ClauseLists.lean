import BoundQuery.Proofs.ClosedText
import BoundQuery.Proofs.OwnedColumns
import BoundQuery.Proofs.RespacedSources
import BoundQuery.Proofs.SelectLists

/-!
# The lists of a read

A read lists columns behind SELECT, keys behind GROUP BY, conditions on aggregates behind HAVING and
sort keys behind ORDER BY. A clause whose list would be empty is left out, with one exception: a
grouping text of commas and blanks is not blank itself, but has no key, and leaves GROUP BY with
nothing behind it. No item is blank but the column of a blank key.

## Main definitions

* `Criteria.Groups`, the grouping texts that open a GROUP BY clause
* `Having.speaks`, conditions on aggregates with something to compare with
* `Criteria.Selects`, the items of a select list
* `Criteria.Lists`, the four lists of a compiled read
* `Criteria.Closing`, criteria whose texts are closed

## Main results

* `Scope.inked_key`, `Scope.key_of_blank` — blank keys, and others, resolved
* `Select.endsOpen_clauses` — a row of clauses ends like the last one
* `Criteria.lists_of_compile` — which lists a read has, what is blank in them, and how it ends
-/

namespace BoundQuery

open Text

/-! ### Blank keys -/

theorem Text.lowerFirst_ne_empty {s : String} (given : s ≠ "") : lowerFirst s ≠ "" := by
  obtain ⟨c, cs, chars⟩ := List.exists_cons_of_ne_nil (l := s.toList) (by simpa using given)
  intro empty
  have lowered := toList_lowerFirst chars
  rw [empty] at lowered
  exact lowerOf_ne_nil c (List.append_eq_nil_iff.mp lowered.symm).1

namespace Scope

variable {s : Scope} {text sql : String}

/-- A key that is not blank resolves to a text that is not blank. -/
theorem inked_key (names : s.NamedBy Inked) (inked : Inked text) (resolved : s.key text = .ok sql) :
    Inked sql := by
  have trimmed : Inked (trim text) := inked_trim.mpr inked
  rw [key] at resolved
  split at resolved
  · split at resolved
    · obtain ⟨e, -, result⟩ := Outcome.bind_eq_ok.mp resolved
      rw [← Outcome.pure_eq_ok.mp result]
      exact (Inked.append_left (t := ".") rfl _).append_right _
    · rw [← Except.ok.inj resolved]
      exact trimmed
  · rw [← Except.ok.inj resolved]
    exact names.simpleKey trimmed

/-- A blank key is the property without a name, if there is one, and nothing otherwise. -/
theorem key_of_blank (named : s.entity.name ≠ "")
    (declared : ∀ d ∈ s.aliases.entries, isIdentifier d.1) (blank : isBlankText text) :
    s.key text = .ok ((s.entity.column? "").getD "") := by
  have noTable : s.namedTable? "" = none := by
    refine if_neg fun same => ?_
    exact absurd (declared _ (Dictionary.mem_of_find? (beq_iff_eq.mp same))) Bool.false_ne_true
  have notSelf : s.entity.isSelf "" = false := by
    rw [Entity.isSelf, Bool.or_eq_false_iff, beq_eq_false_iff_ne, beq_eq_false_iff_ne]
    exact ⟨named.symm, (lowerFirst_ne_empty named).symm⟩
  rw [key, trim_of_blank blank]
  change Except.ok (s.simpleKey "") = _
  rw [simpleKey, noTable]
  simp only [notSelf, Bool.false_eq_true, if_false]

/-- The column of a key is blank exactly when the key is, and there is no property without a
name. -/
theorem inked_key_iff (names : s.NamedBy Inked) (named : s.entity.name ≠ "")
    (declared : ∀ d ∈ s.aliases.entries, isIdentifier d.1) (resolved : s.key text = .ok sql) :
    Inked sql ↔ Inked text ∨ (s.entity.property? "").isSome := by
  by_cases inked : Inked text
  · exact iff_of_true (inked_key names inked resolved) (.inl inked)
  · rw [key_of_blank named declared (not_inked_iff.mp inked)] at resolved
    rw [← Except.ok.inj resolved, or_iff_right inked]
    cases known : s.entity.property? "" with
    | none =>
      rw [Entity.column?, known]
      exact iff_of_false (not_inked_iff.mpr rfl) Bool.noConfusion
    | some p =>
      have column := names.entity.columns _ (Dictionary.mem_of_find? known)
      rw [Entity.column?, known]
      exact iff_of_true column rfl

end Scope

/-! ### Items of the select list -/

namespace Projection

open Labels

variable {scope : Scope} {settings : Settings} {i : Item}

/-- An item is blank when its expression is: a label is given to dotted expressions only. -/
theorem Item.OfKey.inked_text {key : String} (ofKey : Item.OfKey scope settings key i) :
    Inked i.text ↔ Inked i.expression := by
  have labels := ofKey.label
  rw [Item.text]
  cases given : i.label with
  | none => rfl
  | some label =>
    rw [given, needsLabel, eq_comm, Option.isSome_some, Bool.and_eq_true] at labels
    have inked : Inked i.expression := by
      rw [inked_iff_marks, Ne, marks_eq_nil_iff]
      intro blank
      have point := blank '.' (List.contains_iff_mem.mp labels.1)
      cases point
    exact iff_of_true ((inked.append_right _).append_right _) inked

/-- The items of keys are not blank when the keys are not, or name a column all the same. -/
theorem inked_items_iff (names : scope.NamedBy Inked) (named : scope.entity.name ≠ "")
    (declared : ∀ d ∈ scope.aliases.entries, isIdentifier d.1) {keys : List String}
    {items : List Item} (ofKeys : List.Forall₂ (Item.OfKey scope settings) keys items) :
    (∀ i ∈ items, Inked i.text) ↔ ∀ key ∈ keys, Inked key ∨ (scope.entity.property? "").isSome := by
  induction ofKeys with
  | nil => simp
  | cons first _ ih =>
    rw [List.forall_mem_cons, List.forall_mem_cons, ih, first.inked_text,
      Scope.inked_key_iff names named declared first.expression]

theorem Item.OfReduce.inked_text {r : Reduce} (ofReduce : Item.OfReduce scope settings r i) :
    Inked i.text := by
  rw [Item.text, ofReduce.label]
  exact (Inked.append_left (t := " AS ") rfl _).append_right _

theorem inked_aggregates {reduces : List Reduce} {items : List Item}
    (ofReduces : List.Forall₂ (Item.OfReduce scope settings) reduces items) :
    ∀ i ∈ items, Inked i.text := by
  induction ofReduces with
  | nil => simp
  | cons first _ ih => exact List.forall_mem_cons.mpr ⟨first.inked_text, ih⟩

theorem isEmpty_of_ofProjected {counting : Bool} {p : Projected} {projection : Projection}
    (ok : ofProjected scope settings counting p = .ok projection) : p.isEmpty = false := by
  rw [ofProjected] at ok
  split at ok
  · cases ok
  · next given => simpa using given

/-- The conditions on aggregates are those of the reduces, in order. -/
theorem having_eq {counting : Bool} {p : Projected} {projection : Projection}
    (ok : ofProjected scope settings counting p = .ok projection) :
    projection.having =
      p.reduces.filterMap fun r => r.having.map (Having.mk (r.label settings.separator)) := by
  obtain ⟨distinct, aggregates, keys, -, ofReduces, -, rfl⟩ := ofProjected_eq_ok ok
  have same : p.reduces.map (fun r => r.having.map (Having.mk (r.label settings.separator))) =
      aggregates.map Aggregated.having := by
    have each := Outcome.mapM_eq_ok_iff.mp ofReduces
    refine Outcome.map_eq_map_of_forall₂ (each.imp fun r a ok => ?_)
    obtain ⟨call, -, rfl⟩ := aggregated_eq_ok ok
    rfl
  have kept := congrArg (List.filterMap id) same
  rw [List.filterMap_map, List.filterMap_map] at kept
  exact kept.symm

end Projection

/-! ### Clauses -/

namespace Text

variable {c : Char} {s : String}

theorem inked_of_closed (closed : Closed s) : Inked s := by
  by_contra blank
  have none : lastWord s.toList = [] := by
    rw [List.eq_nil_iff_forall_not_mem]
    intro c member
    have ink := solid_of_mem_lastWord member
    rw [lastWord, List.mem_reverse] at member
    have inText := List.mem_reverse.mp (List.takeWhile_subset _ member)
    rw [List.all_eq_true.mp (not_inked_iff.mp blank) c inText] at ink
    cases ink
  rw [Closed, endsOpen, none] at closed
  cases closed

theorem ne_empty_of_inked (inked : Inked s) : s ≠ "" := by
  rintro rfl
  cases inked

/-- A list of closed items behind a keyword is closed. -/
theorem closed_list (word : String) {items : List String} (given : items ≠ [])
    (each : ∀ item ∈ items, Closed item) : Closed (word ++ " " ++ joinWith ", " items) := by
  obtain ⟨front, item, rfl⟩ := (List.eq_nil_or_concat' items).resolve_left given
  have list : Closed (joinWith ", " (front ++ [item])) := by
    rw [Closed, endsOpen_joinWith (show ", " = "," ++ " " from rfl)]
    exact each item (by simp)
  exact closed_append_blank word list

end Text

namespace Criteria

variable {c : Criteria} {scope : Scope} {text : String}

/-- The read has a projection, and groups by a text that is not blank. -/
structure Groups (c : Criteria) (keys : String) : Prop where
  projected : c.projected.isSome
  given : c.groupBy = some keys
  inked : Inked keys

/-- The keys between the commas that are not blank. -/
def groupKeys (keys : String) : List String :=
  ((splitAll ',' keys).map trim).filter fun k => !k.isEmpty

theorem mem_groupKeys {keys key : String} :
    key ∈ groupKeys keys ↔ ∃ piece ∈ splitAll ',' keys, Inked piece ∧ trim piece = key := by
  rw [groupKeys, List.mem_filter, List.mem_map]
  constructor
  · rintro ⟨⟨piece, member, rfl⟩, given⟩
    refine ⟨piece, member, ?_, rfl⟩
    by_contra blank
    rw [trim_of_blank (not_inked_iff.mp blank)] at given
    cases given
  · rintro ⟨piece, member, inked, rfl⟩
    have given := ne_empty_of_inked (inked_trim.mpr inked)
    exact ⟨⟨piece, member, rfl⟩, by simpa using given⟩

/-- A GROUP BY clause: nothing, or the columns of the keys. -/
theorem groupByClause_eq_ok (ok : (c.groupByClause scope).outcome = .ok text) :
    ((∀ keys, ¬ c.Groups keys) ∧ text = "") ∨
      ∃ keys columns, c.Groups keys ∧ (groupKeys keys).mapM scope.key = .ok columns ∧
        text = "GROUP BY " ++ joinWith ", " columns := by
  rw [groupByClause] at ok
  split at ok
  · next nothing =>
    refine .inl ⟨fun keys groups => ?_, (Except.ok.inj ok).symm⟩
    rw [given?, groups.given, Option.filter_some, groups.inked] at nothing
    cases nothing
  · next keys given =>
    rw [given?, Option.filter_eq_some_iff, Bool.not_eq_true'] at given
    split at ok
    · next unprojected =>
      refine .inl ⟨fun keys groups => ?_, (Except.ok.inj ok).symm⟩
      rw [← Option.not_isSome, groups.projected] at unprojected
      cases unprojected
    · next projected =>
      rw [Attempt.outcome_bind, Attempt.outcome_lift] at ok
      obtain ⟨columns, each, ok⟩ := Outcome.bind_eq_ok.mp ok
      refine .inr ⟨keys, columns, ⟨by simpa [Option.isSome_iff_ne_none] using projected, given.1,
        given.2⟩,
        each, (Except.ok.inj ok).symm⟩

/-- The sort keys that are written. -/
def activeSorts (c : Criteria) : List SortKey :=
  if c.fixedSort then [] else c.sorts.filter fun sort => !isBlankText sort.key

theorem mem_activeSorts {sort : SortKey} :
    sort ∈ c.activeSorts ↔ c.fixedSort = false ∧ sort ∈ c.sorts ∧ Inked sort.key := by
  rw [activeSorts]
  split
  · next fixed => simp [fixed]
  · next free => simp [free, Inked]

/-- An ORDER BY clause: nothing, or the sort keys that are not blank, each with its direction. -/
theorem orderByClause_eq_ok (ok : c.orderByClause scope = .ok text) :
    ∃ sorted, c.activeSorts.mapM (fun sort => do
        return (← scope.script sort.key) ++ " " ++ sort.effective.name) = .ok sorted ∧
      text = if sorted = [] then "" else "ORDER BY " ++ joinWith ", " sorted := by
  rw [orderByClause] at ok
  rw [activeSorts]
  split at ok
  · next fixed =>
    rw [if_pos fixed]
    exact ⟨[], rfl, (Outcome.pure_eq_ok.mp ok).symm⟩
  · next free =>
    rw [if_neg free]
    obtain ⟨sorted, each, ok⟩ := Outcome.bind_eq_ok.mp ok
    refine ⟨sorted, each, ?_⟩
    rw [← Outcome.pure_eq_ok.mp ok]
    simp only [List.isEmpty_iff]

/-- Each sort key ends in its direction. -/
theorem closed_sorted {sorts : List SortKey} {sorted : List String}
    (each : sorts.mapM (fun sort => do
      return (← scope.script sort.key) ++ " " ++ sort.effective.name) = .ok sorted) :
    ∀ item ∈ sorted, Closed item := by
  refine Outcome.forall_of_mapM each fun sort _ item ok => ?_
  obtain ⟨script, -, result⟩ := Outcome.bind_eq_ok.mp ok
  rw [← Outcome.pure_eq_ok.mp result]
  have direction : Closed sort.effective.name := by
    cases sort.effective <;> rfl
  exact closed_append_blank script direction

theorem closed_orderByClause (ok : c.orderByClause scope = .ok text) : text = "" ∨ Closed text := by
  obtain ⟨sorted, each, rfl⟩ := orderByClause_eq_ok ok
  split
  · exact .inl rfl
  · next given => exact .inr (closed_list "ORDER BY" given (closed_sorted each))

end Criteria

namespace Having

variable {d : Dialect} {h : Having} {hs : List Having}

/-- The condition has something to compare with. -/
def speaks (h : Having) : Bool :=
  h.condition.operand.any fun operand => !operand.isAbsent

/-- The term of a condition: its conjunction, and the label of its aggregate with more text. -/
structure Writes (h : Having) (t : Conjunction × String) : Prop where
  conjunction : t.1 = h.condition.conjunction.getD .and
  body : ∃ rest, Closed rest ∧ t.2 = h.label ++ " " ++ rest

theorem Writes.closed {t : Conjunction × String} (writes : h.Writes t) : Closed t.2 := by
  obtain ⟨rest, closed, body⟩ := writes.body
  rw [body]
  exact closed_append_blank h.label closed

/-- A condition that speaks is written, behind the label of its aggregate, and no other is. -/
theorem body_cases {b : Option String} (ok : h.body d = .ok b) :
    (h.speaks = false ∧ b = none) ∨
      ∃ rest, h.speaks = true ∧ Closed rest ∧ b = some (h.label ++ " " ++ rest) := by
  rw [body] at ok
  rw [speaks]
  split at ok
  · next none =>
    rw [none]
    exact .inl ⟨rfl, (Except.ok.inj ok).symm⟩
  · next operand given =>
    rw [given, Option.any_some]
    split at ok
    · next absent =>
      rw [absent]
      exact .inl ⟨rfl, (Except.ok.inj ok).symm⟩
    · next present =>
      obtain ⟨rest, written, ok⟩ := Outcome.bind_eq_ok.mp ok
      exact .inr ⟨rest, by simpa using present, closed_rest written,
        (Outcome.pure_eq_ok.mp ok).symm⟩

/-- The terms are those of the conditions that speak, in order. -/
theorem terms_eq_ok {ts : List (Conjunction × String)} (ok : terms d hs = .ok ts) :
    List.Forall₂ Writes (hs.filter speaks) ts := by
  obtain ⟨bodies, each, result⟩ := Outcome.bind_eq_ok.mp ok
  rw [← Outcome.pure_eq_ok.mp result]
  have written := Outcome.mapM_eq_ok_iff.mp each
  clear ok each result
  induction written with
  | nil => exact .nil
  | @cons h b hs bodies first _ ih =>
    rcases body_cases first with ⟨silent, rfl⟩ | ⟨rest, speaks, closed, rfl⟩
    · rw [List.zip_cons_cons, List.filterMap_cons_none rfl,
        List.filter_cons_of_neg (by rw [silent]; exact Bool.false_ne_true)]
      exact ih
    · rw [List.zip_cons_cons, List.filterMap_cons, List.filter_cons_of_pos speaks]
      exact .cons ⟨rfl, rest, closed, rfl⟩ ih

theorem closed_terms {ts : List (Conjunction × String)} (ok : terms d hs = .ok ts) :
    ∀ t ∈ ts, Closed t.2 := by
  have each := terms_eq_ok ok
  generalize hs.filter speaks = speaking at each
  clear ok
  induction each with
  | nil => simp
  | cons first _ ih => exact List.forall_mem_cons.mpr ⟨first.closed, ih⟩

/-- A row of closed conditions is closed. -/
theorem closed_lay {ts : List (Conjunction × String)} (given : ts ≠ [])
    (each : ∀ t ∈ ts, Closed t.2) : Closed (lay ts) := by
  cases ts with
  | nil => exact absurd rfl given
  | cons t ts =>
    rw [lay]
    rcases List.eq_nil_or_concat' ts with rfl | ⟨front, u, rfl⟩
    · have ends := closed_append_blank "HAVING" (each t List.mem_cons_self)
      simpa using ends
    · have ends := closed_append_blank ("HAVING " ++ t.2 ++
        (String.join (front.map fun u => " " ++ u.1.sql ++ " " ++ u.2) ++ (" " ++ u.1.sql)))
        (each u (by simp))
      simpa [String.join_append, String.append_assoc] using ends

theorem closed_clause {text : String} (ok : clause d hs = .ok text) : text = "" ∨ Closed text := by
  obtain ⟨ts, written, rfl⟩ := Outcome.map_eq_ok.mp ok
  by_cases none : ts = []
  · rw [none]
    exact .inl rfl
  · exact .inr (closed_lay none (closed_terms written))

end Having

/-! ### The end of a statement -/

namespace Select

theorem clauses_concat_empty (parts : List String) : clauses (parts ++ [""]) = clauses parts := by
  rw [clauses, List.filter_append]
  simp [clauses]

/-- A row of clauses ends like the last one that is not left out. -/
theorem endsOpen_clauses {last : String} (given : last ≠ "") (parts : List String) :
    endsOpen (clauses (parts ++ [last])) = endsOpen last := by
  have kept : (!last.isEmpty) = true := by simpa using given
  rw [clauses, List.filter_append, List.filter_cons_of_pos (p := fun c : String => !c.isEmpty) kept,
    List.filter_nil, endsOpen_joinWith String.empty_append.symm]

theorem closed_clauses {last : String} (closed : Closed last) (parts : List String) :
    Closed (clauses (parts ++ [last])) := by
  rw [Closed, endsOpen_clauses (ne_empty_of_inked (inked_of_closed closed))]
  exact closed

end Select

namespace Criteria

variable {c : Criteria} {catalog : Catalog} {settings : Settings} {s : Select} {e : Entity}

/-- A HAVING clause and an ORDER BY clause are closed, and so is a read with one of them. -/
theorem closed_sql (ok : (c.compile catalog settings).outcome = .ok s)
    (given : ¬ (s.having = "" ∧ s.orderBy = "")) : Closed s.sql := by
  obtain ⟨e, projection, source, where_, groupBy, having, orderBy, -, -, -, -, -, ofHaving,
    ofOrderBy, rfl⟩ := compile_eq_ok ok
  dsimp only [Select.sql]
  rw [Closed, endsOpen_append_blank]
  rcases closed_orderByClause ofOrderBy with rfl | closed
  · rw [show Select.clauses [source, where_.sql, groupBy, having, ""] = _ from
      Select.clauses_concat_empty [source, where_.sql, groupBy, having]]
    rcases Having.closed_clause ofHaving with rfl | closed
    · exact absurd ⟨rfl, rfl⟩ given
    · exact Select.closed_clauses closed [source, where_.sql, groupBy]
  · exact Select.closed_clauses closed [source, where_.sql, groupBy, having]

/-- The names of the catalog are closed, and so are the source of the read, the keys that it groups
by, and the scripts and expressions of its conditions. -/
structure Closing (c : Criteria) (catalog : Catalog) (e : Entity) : Prop where
  names : catalog.NamedBy Closed
  source : Closed (trim (c.sourceScript e))
  groupKeys : ∀ keys, c.Groups keys → ∀ key ∈ splitAll ',' keys, Inked key → Closed (trim key)
  conditions : ∀ leaf ∈ Condition.leaves c.conditions, leaf.Closes

namespace Closing

theorem scope (closing : c.Closing catalog e) (member : e ∈ catalog.entities) :
    (c.scope catalog e).NamedBy Closed :=
  ⟨closing.names, closing.names e member⟩

theorem fromClause (closing : c.Closing catalog e) (member : e ∈ catalog.entities) {d : Dialect}
    {source : String} (ok : (c.fromClause (c.scope catalog e) d).outcome = .ok source) :
    Closed source := by
  obtain ⟨script, hint, resolved, isHint, rfl⟩ := fromClause_eq_ok ok
  have closed := Scope.closed_script (closing.scope member) closing.source resolved
  change Closed (Select.clauses (["FROM " ++ script] ++ [hint]))
  rcases isHint with rfl | ⟨index, -, rfl⟩
  · rw [Select.clauses_concat_empty]
    exact Select.closed_clauses (closed_append_blank "FROM" closed) []
  · rw [Closed, Select.endsOpen_clauses (by simp)]
    exact closed_append_foreign _ ")" rfl rfl

theorem filter (closing : c.Closing catalog e) (member : e ∈ catalog.entities) {filter : Fragment}
    (ok : (c.filterOf catalog settings e).compile .whereFirst
      (c.effectiveConditions (c.scope catalog e)) = .ok filter) :
    filter.sql = "" ∨ Closed filter.sql := by
  obtain ⟨ts, terms, rfl⟩ := Filter.compile_eq_ok.mp ok
  have closes : ∀ leaf ∈ Condition.leaves (c.effectiveConditions (c.scope catalog e)),
      leaf.Closes := by
    intro leaf member
    rw [effectiveConditions] at member
    split at member
    · exact closing.conditions leaf (Scope.mem_leaves_pruned member)
    · exact closing.conditions leaf member
  have each := Filter.closed_terms (closing.scope member) closes terms
  cases ts with
  | nil => exact .inl rfl
  | cons t ts => exact .inr (Filter.closed_lay each)

/-- A GROUP BY clause breaks off only if it has no key. -/
theorem groupBy (closing : c.Closing catalog e) (member : e ∈ catalog.entities) {text : String}
    (ok : (c.groupByClause (c.scope catalog e)).outcome = .ok text) :
    text = "" ∨ text = "GROUP BY " ∨ Closed text := by
  rcases groupByClause_eq_ok ok with ⟨-, rfl⟩ | ⟨keys, columns, groups, each, rfl⟩
  · exact .inl rfl
  · by_cases none : columns = []
    · rw [none]
      exact .inr (.inl rfl)
    · refine .inr (.inr (closed_list "GROUP BY" none ?_))
      refine Outcome.forall_of_mapM each fun key isKey column resolved => ?_
      obtain ⟨piece, isPiece, inked, rfl⟩ := mem_groupKeys.mp isKey
      rcases Scope.closed_key (closing.scope member) resolved with rfl | closed
      · rw [trim_trim]
        exact closing.groupKeys keys groups piece isPiece inked
      · exact closed

/-- A read whose texts are closed breaks off only behind a GROUP BY without keys. -/
theorem endsOpen_sql (closing : c.Closing catalog e) (found : catalog.lookup? c.entity = some e)
    (ok : (c.compile catalog settings).outcome = .ok s) :
    endsOpen s.sql ↔ s.groupBy = "GROUP BY " ∧ s.having = "" ∧ s.orderBy = "" := by
  by_cases last : s.having = "" ∧ s.orderBy = ""
  swap
  · exact iff_of_false (Bool.eq_false_iff.mp (closed_sql ok last)) fun other => last other.2
  obtain ⟨e', projection, source, where_, groupBy, having, orderBy, found', -, ofSource, ofFilter,
    ofGroupBy, -, -, rfl⟩ := compile_eq_ok ok
  obtain rfl : e = e' := Option.some.inj (found.symm.trans found')
  obtain ⟨rfl, rfl⟩ : having = "" ∧ orderBy = "" := last
  have member := Catalog.mem_of_lookup? found
  dsimp only [Select.sql]
  rw [endsOpen_append_blank, show Select.clauses [source, where_.sql, groupBy, "", ""] = _ from
    Select.clauses_concat_empty [source, where_.sql, groupBy, ""],
    show Select.clauses [source, where_.sql, groupBy, ""] = _ from
    Select.clauses_concat_empty [source, where_.sql, groupBy]]
  rcases closing.groupBy member ofGroupBy with rfl | rfl | closed
  · -- without grouping the conditions come last, or the source
    refine iff_of_false (Bool.eq_false_iff.mp ?_) fun other => absurd other.1 (by decide)
    rw [show Select.clauses [source, where_.sql, ""] = _ from
      Select.clauses_concat_empty [source, where_.sql]]
    rcases closing.filter member ofFilter with none | closed
    · rw [none, show Select.clauses [source, ""] = _ from Select.clauses_concat_empty [source]]
      exact Select.closed_clauses (closing.fromClause member ofSource) []
    · exact Select.closed_clauses closed [source]
  · refine iff_of_true ?_ ⟨rfl, rfl, rfl⟩
    have given : "GROUP BY " ≠ "" := by decide
    exact (Select.endsOpen_clauses given [source, where_.sql]).trans rfl
  · refine iff_of_false (Bool.eq_false_iff.mp
      (Select.closed_clauses closed [source, where_.sql])) fun other => ?_
    rw [other.1] at closed
    cases closed

end Closing

/-! ### The four lists -/

/-- The projection has an aggregate with a condition that has something to compare with. -/
def Limits (c : Criteria) : Prop :=
  ∃ p, c.projected = some p ∧ ∃ r ∈ p.reduces, ∃ condition, r.having = some condition ∧
    ∃ operand, condition.operand = some operand ∧ operand.isAbsent = false

/-- The conditions on aggregates, each with the label of its aggregate. -/
def limiting (c : Criteria) (settings : Settings) : List Having :=
  ((c.projected.map Projected.reduces).getD []).filterMap fun r =>
    r.having.map (Having.mk (r.label settings.separator))

/-- The items of the select list: one for all columns, or one for each distinct key, each aggregate
and each plain key. -/
inductive Selects (c : Criteria) (scope : Scope) (settings : Settings) : List String → Prop where
  | whole (unprojected : c.projected = none) : Selects c scope settings ["*"]
  | listed {p : Projected} {distinct aggregates plain : List Projection.Item}
    (projected : c.projected = some p)
    (areDistinct : List.Forall₂ (Projection.Item.OfKey scope settings) p.distinct distinct)
    (areAggregates : List.Forall₂ (Projection.Item.OfReduce scope settings) p.reduces aggregates)
    (arePlain : List.Forall₂ (Projection.Item.OfKey scope settings) p.resultKeys plain) :
    Selects c scope settings ((distinct ++ aggregates ++ plain).map Projection.Item.text)

/-- The lists of a compiled read: what stands behind SELECT, GROUP BY, HAVING and ORDER BY. -/
structure Lists (c : Criteria) (scope : Scope) (settings : Settings) (s : Select)
    (selected grouped : List String) (limited : List (Conjunction × String))
    (sorted : List String) : Prop where
  columns : s.columns = joinWith ", " selected ∨ s.columns = "DISTINCT " ++ joinWith ", " selected
  selects : c.Selects scope settings selected
  selected_ne_nil : selected ≠ []
  /-- A selected item is blank when its key is, unless a property without a name has a column. -/
  selected_inked : (∀ item ∈ selected, Inked item) ↔ ∀ p, c.projected = some p →
    ∀ key ∈ p.distinct ++ p.resultKeys, Inked key ∨ (scope.entity.property? "").isSome
  /-- A grouping text that is not blank opens the clause. -/
  groupBy : (s.groupBy = "" ∧ ∀ keys, ¬ c.Groups keys) ∨
    (s.groupBy = "GROUP BY " ++ joinWith ", " grouped ∧ ∃ keys, c.Groups keys)
  groups : ∀ keys, c.Groups keys →
    List.Forall₂ (fun key column => scope.key key = .ok column) (groupKeys keys) grouped
  /-- The list has an item when a key between the commas is not blank. -/
  grouped_ne_nil : grouped ≠ [] ↔ ∃ keys, c.Groups keys ∧ ∃ key ∈ splitAll ',' keys, Inked key
  grouped_inked : ∀ item ∈ grouped, Inked item
  /-- Without conditions there is no clause. -/
  having : s.having = Having.lay limited
  limits : List.Forall₂ Having.Writes ((c.limiting settings).filter Having.speaks) limited
  limited_ne_nil : limited ≠ [] ↔ c.Limits
  limited_inked : ∀ item ∈ limited, Inked item.2
  orderBy : s.orderBy = if sorted = [] then "" else "ORDER BY " ++ joinWith ", " sorted
  sorts : List.Forall₂ (fun sort item => ∃ script, scope.script sort.key = .ok script ∧
    script ++ " " ++ sort.effective.name = item) c.activeSorts sorted
  sorted_ne_nil : sorted ≠ [] ↔ c.fixedSort = false ∧ ∃ sort ∈ c.sorts, Inked sort.key
  sorted_inked : ∀ item ∈ sorted, Inked item

theorem having_projection {scope : Scope} {projection : Projection}
    (ok : c.projection scope settings = .ok projection) :
    projection.having = c.limiting settings := by
  cases projected : c.projected with
  | none =>
    rw [Criteria.projection, projected] at ok
    rw [← Except.ok.inj ok, limiting, projected]
    rfl
  | some p =>
    rw [projection_of_projected projected] at ok
    rw [Projection.having_eq ok, limiting, projected]
    rfl

theorem limiting_ne_nil_iff : (c.limiting settings).filter Having.speaks ≠ [] ↔ c.Limits := by
  rw [← List.length_pos_iff, List.length_pos_iff_exists_mem]
  simp only [List.mem_filter, limiting, List.mem_filterMap, Option.map_eq_some_iff]
  constructor
  · rintro ⟨_, ⟨r, isReduce, condition, given, rfl⟩, speaks⟩
    cases projected : c.projected with
    | none =>
      rw [projected] at isReduce
      cases isReduce
    | some p =>
      rw [projected] at isReduce
      rw [Having.speaks, Option.any_eq_true] at speaks
      obtain ⟨operand, isOperand, present⟩ := speaks
      exact ⟨p, projected, r, isReduce, condition, given, operand, isOperand,
        by simpa using present⟩
  · rintro ⟨p, projected, r, isReduce, condition, given, operand, isOperand, present⟩
    refine ⟨_, ⟨r, by rw [projected]; exact isReduce, condition, given, rfl⟩, ?_⟩
    rw [Having.speaks, isOperand, Option.any_some, present]
    rfl

/-- The select list of a read has items, and they are blank only for blank keys. -/
theorem selected_of_projection (names : (c.scope catalog e).NamedBy Inked) (named : e.name ≠ "")
    {projection : Projection} (ok : c.projection (c.scope catalog e) settings = .ok projection) :
    ∃ selected, (joinWith ", " projection.columns = joinWith ", " selected ∨
        joinWith ", " projection.columns = "DISTINCT " ++ joinWith ", " selected) ∧
      c.Selects (c.scope catalog e) settings selected ∧
      selected ≠ [] ∧ ((∀ item ∈ selected, Inked item) ↔ ∀ p, c.projected = some p →
        ∀ key ∈ p.distinct ++ p.resultKeys, Inked key ∨ (e.property? "").isSome) := by
  cases projected : c.projected with
  | none =>
    rw [Criteria.projection, projected] at ok
    rw [← Except.ok.inj ok]
    refine ⟨["*"], .inl rfl, .whole projected, List.cons_ne_nil _ _, iff_of_true ?_ ?_⟩
    · rintro item member
      rw [List.mem_singleton.mp member]
      rfl
    · rintro p given
      cases given
  | some p =>
    rw [projection_of_projected projected] at ok
    obtain ⟨distinct, aggregates, plain, areDistinct, areAggregates, arePlain, columns, -⟩ :=
      Projection.items_of_ofProjected ok
    refine ⟨(distinct ++ aggregates ++ plain).map Projection.Item.text, ?_,
      .listed projected areDistinct areAggregates arePlain, ?_, ?_⟩
    · rw [columns]
      split
      · exact .inl String.empty_append
      · exact .inr rfl
    · have given := Projection.isEmpty_of_ofProjected ok
      contrapose! given
      rw [List.map_eq_nil_iff, List.append_eq_nil_iff, List.append_eq_nil_iff] at given
      obtain ⟨⟨rfl, rfl⟩, rfl⟩ := given
      rw [Projected.isEmpty, List.forall₂_nil_right_iff.mp areDistinct,
        List.forall₂_nil_right_iff.mp areAggregates, List.forall₂_nil_right_iff.mp arePlain]
      exact Bool.noConfusion
    · have declared : ∀ d ∈ (c.scope catalog e).aliases.entries, isIdentifier d.1 :=
        fun d member => isIdentifier_of_mem_scope member
      have ofKeys := Projection.inked_items_iff names named declared
        (List.rel_append areDistinct arePlain)
      have ofReduces := Projection.inked_aggregates areAggregates
      rw [List.forall_mem_map]
      simp only [List.mem_append, or_imp, forall_and, Option.some.injEq, forall_eq'] at ofKeys ⊢
      exact Iff.trans ⟨fun each => ⟨each.1.1, each.2⟩, fun each => ⟨⟨each.1, ofReduces⟩, each.2⟩⟩
        ofKeys

/-- The columns of a GROUP BY clause, which is there for any text that is not blank. -/
theorem grouped_of_groupByClause {scope : Scope} {text : String} (names : scope.NamedBy Inked)
    (ok : (c.groupByClause scope).outcome = .ok text) :
    ∃ grouped, ((text = "" ∧ ∀ keys, ¬ c.Groups keys) ∨
        (text = "GROUP BY " ++ joinWith ", " grouped ∧ ∃ keys, c.Groups keys)) ∧
      (∀ keys, c.Groups keys →
        List.Forall₂ (fun key column => scope.key key = .ok column) (groupKeys keys) grouped) ∧
      (grouped ≠ [] ↔ ∃ keys, c.Groups keys ∧ ∃ key ∈ splitAll ',' keys, Inked key) ∧
      ∀ item ∈ grouped, Inked item := by
  rcases groupByClause_eq_ok ok with ⟨none, rfl⟩ | ⟨keys, columns, groups, each, rfl⟩
  · refine ⟨[], .inl ⟨rfl, none⟩, fun keys groups => absurd groups (none keys),
      iff_of_false (fun given => given rfl) ?_, by simp⟩
    rintro ⟨keys, groups, -⟩
    exact none keys groups
  · have only : ∀ keys', c.Groups keys' → keys' = keys := fun keys' groups' =>
      Option.some.inj (groups'.given.symm.trans groups.given)
    refine ⟨columns, .inr ⟨rfl, keys, groups⟩, ?_, ?_, ?_⟩
    · intro keys' groups'
      rw [only keys' groups']
      exact Outcome.mapM_eq_ok_iff.mp each
    · have count := (Outcome.mapM_eq_ok_iff.mp each).length_eq
      rw [← List.length_pos_iff, ← count, List.length_pos_iff_exists_mem]
      constructor
      · rintro ⟨key, member⟩
        obtain ⟨piece, isPiece, inked, -⟩ := mem_groupKeys.mp member
        exact ⟨keys, groups, piece, isPiece, inked⟩
      · rintro ⟨keys', groups', piece, isPiece, inked⟩
        rw [only keys' groups'] at isPiece
        exact ⟨trim piece, mem_groupKeys.mpr ⟨piece, isPiece, inked, rfl⟩⟩
    · refine Outcome.forall_of_mapM each fun key isKey column resolved => ?_
      obtain ⟨piece, -, inked, rfl⟩ := mem_groupKeys.mp isKey
      exact Scope.inked_key names (inked_trim.mpr inked) resolved

/-- The sort keys of a read, which are there unless the order is fixed. -/
theorem sorted_of_activeSorts {scope : Scope} {sorted : List String}
    (each : c.activeSorts.mapM (fun sort => do
      return (← scope.script sort.key) ++ " " ++ sort.effective.name) = .ok sorted) :
    List.Forall₂ (fun sort item => ∃ script, scope.script sort.key = .ok script ∧
        script ++ " " ++ sort.effective.name = item) c.activeSorts sorted ∧
      (sorted ≠ [] ↔ c.fixedSort = false ∧ ∃ sort ∈ c.sorts, Inked sort.key) := by
  have items := Outcome.mapM_eq_ok_iff.mp each
  constructor
  · refine items.imp fun sort item ok => ?_
    obtain ⟨script, resolved, result⟩ := Outcome.bind_eq_ok.mp ok
    exact ⟨script, resolved, Outcome.pure_eq_ok.mp result⟩
  · rw [← List.length_pos_iff, ← items.length_eq, List.length_pos_iff_exists_mem]
    simp only [mem_activeSorts, exists_and_left]

/-- The lists of a read from a built catalog: the select list is never empty, the sort keys and the
conditions on aggregates have their clauses exactly when there are some, and the same holds of the
keys to group by unless the grouping text is made of commas. The read never breaks off behind HAVING
or ORDER BY, and if its texts are closed it never does but behind GROUP BY. -/
theorem lists_of_compile {d : CatalogDraft} (built : d.build = .ok catalog)
    (ok : (c.compile catalog settings).outcome = .ok s) :
    ∃ e selected grouped limited sorted, catalog.lookup? c.entity = some e ∧
      c.Lists (c.scope catalog e) settings s selected grouped limited sorted ∧
      (endsOpen s.sql → s.having = "" ∧ s.orderBy = "") ∧
      (c.Closing catalog e →
        (endsOpen s.sql ↔ s.groupBy = "GROUP BY " ∧ s.having = "" ∧ s.orderBy = "")) := by
  obtain ⟨e, projection, source, filter, groupBy, having, orderBy, found, ofProjection, -, -,
    ofGroupBy, ofHaving, ofOrderBy, rfl⟩ := compile_eq_ok ok
  have member := Catalog.mem_of_lookup? found
  have named := CatalogDraft.name_ne_empty built e member
  have ofNames := CatalogDraft.inked_of_build built
  have names : (c.scope catalog e).NamedBy Inked := ⟨ofNames, ofNames e member⟩
  obtain ⟨selected, columns, selects, selected_ne_nil, selected_inked⟩ :=
    selected_of_projection names named ofProjection
  obtain ⟨grouped, groupBy, groups, grouped_ne_nil, grouped_inked⟩ :=
    grouped_of_groupByClause names ofGroupBy
  obtain ⟨limited, terms, rfl⟩ := Outcome.map_eq_ok.mp ofHaving
  obtain ⟨sorted, each, rfl⟩ := orderByClause_eq_ok ofOrderBy
  obtain ⟨sorts, sorted_ne_nil⟩ := sorted_of_activeSorts each
  have limits := Having.terms_eq_ok terms
  rw [having_projection ofProjection] at limits
  have limited_ne_nil : limited ≠ [] ↔ c.Limits := by
    rw [← limiting_ne_nil_iff, ← List.length_pos_iff, ← limits.length_eq, List.length_pos_iff]
  refine ⟨e, selected, grouped, limited, sorted, found, ?_, ?_,
    fun closing => closing.endsOpen_sql found ok⟩
  · exact {
      columns, selects, selected_ne_nil, selected_inked, groupBy, groups, grouped_ne_nil
      grouped_inked, limits, limited_ne_nil, sorts, sorted_ne_nil
      having := rfl
      limited_inked := fun item member => inked_of_closed (Having.closed_terms terms item member)
      orderBy := rfl
      sorted_inked := fun item member => inked_of_closed (closed_sorted each item member) }
  · intro isOpen
    by_contra given
    exact Bool.eq_false_iff.mp (closed_sql ok given) isOpen

end Criteria

namespace Ledger

/-- One sort key and two pieces of the grouping text are blank, and the script has blanks around
it. -/
def balances : Criteria where
  entity := "Account"
  conditions := [.script " id > 1 " [], .withValue .lt "id" (.text "#amount#")]
  sorts := [⟨" ", none⟩, ⟨"closedAt", none⟩]
  groupBy := some " , state ,"
  ignoresTotal := true
  projected := some {
    distinct := ["state"], reduces := [⟨"amount", .sum, some (.withValue .gt "" (.int 5))⟩] }

/-- The grouping text is not blank, but has no key. -/
def ungrouped : Criteria where
  entity := "Account"
  groupBy := some ","
  ignoresTotal := true
  projected := some { resultKeys := ["id"] }

theorem closing_balances : balances.Closing catalog account where
  names := by
    intro e member
    obtain rfl := List.mem_singleton.mp member
    have columns : ∀ q ∈ account.properties.entries, endsOpen q.2.column = false := by
      decide +kernel
    exact ⟨rfl, columns⟩
  source := rfl
  groupKeys := by
    rintro keys ⟨-, given, -⟩ key member inked
    obtain rfl := Option.some.inj given
    have pieces : ∀ key ∈ splitAll ',' " , state ,",
        isBlankText key = true ∨ endsOpen (trim key) = false := by decide +kernel
    exact (pieces key member).resolve_left (Bool.eq_false_iff.mp inked)
  conditions := by
    intro leaf member
    have leaves : Condition.leaves balances.conditions = balances.conditions := rfl
    rw [leaves, balances, List.mem_cons, List.mem_singleton] at member
    rcases member with rfl | rfl
    · exact ⟨fun _ _ => rfl, fun shape => by cases shape⟩
    · refine ⟨fun shape => (by cases shape), fun _ e given => ?_⟩
      obtain rfl := Option.some.inj given
      rfl

end Ledger

/-- Every clause is there, and none breaks off. -/
theorem Criteria.lists_of_compile_balances :
    Ledger.draft.build = .ok Ledger.catalog ∧
    Ledger.balances.Closing Ledger.catalog Ledger.account ∧
    ∃ s, (Ledger.balances.compile Ledger.catalog {}).outcome = .ok s ∧
      s.sql = "SELECT DISTINCT account_state, SUM(amount) AS amount_sum FROM t_account " ++
        "WHERE id > 1 AND id < amount GROUP BY account_state HAVING amount_sum > 5 " ++
        "ORDER BY closed_at DESC" ∧
      (∃ selected grouped limited sorted,
        Ledger.balances.Lists (Ledger.balances.scope Ledger.catalog Ledger.account) {} s selected
          grouped limited sorted ∧
        grouped ≠ [] ∧ limited ≠ [] ∧ sorted ≠ []) ∧ Closed s.sql := by
  have text : (Ledger.balances.compile Ledger.catalog {}).outcome.toOption.map Select.sql =
      some ("SELECT DISTINCT account_state, SUM(amount) AS amount_sum FROM t_account " ++
        "WHERE id > 1 AND id < amount GROUP BY account_state HAVING amount_sum > 5 " ++
        "ORDER BY closed_at DESC") := by decide +kernel
  obtain ⟨s, ok⟩ := Outcome.exists_of_isOk
    (x := (Ledger.balances.compile Ledger.catalog {}).outcome) (by decide +kernel)
  rw [ok] at text
  obtain ⟨e, selected, grouped, limited, sorted, found, lists, -, ends⟩ :=
    lists_of_compile Ledger.build_draft ok
  obtain rfl : Ledger.account = e := Option.some.inj found
  have groups : Ledger.balances.Groups " , state ," := ⟨rfl, rfl, rfl⟩
  have isPiece : " state " ∈ splitAll ',' " , state ," := by decide +kernel
  have sorts : sorted ≠ [] :=
    lists.sorted_ne_nil.mpr ⟨rfl, _, List.mem_cons_of_mem _ List.mem_cons_self, rfl⟩
  refine ⟨Ledger.build_draft, Ledger.closing_balances, s, ok, Option.some.inj text,
    ⟨selected, grouped, limited, sorted, lists, ?_, ?_, sorts⟩, ?_⟩
  · exact lists.grouped_ne_nil.mpr ⟨_, groups, _, isPiece, rfl⟩
  · exact lists.limited_ne_nil.mpr ⟨_, rfl, _, List.mem_cons_self, _, rfl, _, rfl, rfl⟩
  · refine Bool.eq_false_iff.mpr fun isOpen => ?_
    obtain ⟨-, -, empty⟩ := (ends Ledger.closing_balances).mp isOpen
    rw [lists.orderBy, if_neg sorts] at empty
    exact absurd empty (by simp)

/-- A grouping text of a comma leaves GROUP BY at the end of the read. -/
theorem Criteria.endsOpen_of_ungrouped :
    Ledger.draft.build = .ok Ledger.catalog ∧
    ∃ s, (Ledger.ungrouped.compile Ledger.catalog {}).outcome = .ok s ∧
      (∀ keys, Ledger.ungrouped.Groups keys → ¬ ∃ key ∈ splitAll ',' keys, Inked key) ∧
      s.sql = "SELECT id FROM t_account GROUP BY " ∧ endsOpen s.sql := by
  have text : (Ledger.ungrouped.compile Ledger.catalog {}).outcome.toOption.map Select.sql =
      some "SELECT id FROM t_account GROUP BY " := by decide +kernel
  obtain ⟨s, ok⟩ := Outcome.exists_of_isOk
    (x := (Ledger.ungrouped.compile Ledger.catalog {}).outcome) (by decide +kernel)
  rw [ok] at text
  have sql : s.sql = "SELECT id FROM t_account GROUP BY " := Option.some.inj text
  refine ⟨Ledger.build_draft, s, ok, ?_, sql, ?_⟩
  · rintro keys ⟨-, given, -⟩
    obtain rfl := Option.some.inj given
    rintro ⟨key, member, inked⟩
    have pieces : ∀ key ∈ splitAll ',' ",", isBlankText key = true := by decide +kernel
    exact Bool.eq_false_iff.mp inked (pieces key member)
  · rw [sql]
    decide +kernel

end BoundQuery
