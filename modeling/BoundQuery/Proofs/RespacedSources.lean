import BoundQuery.Proofs.CommaSpacing
import BoundQuery.Proofs.DeclaredNames
import BoundQuery.Proofs.KeyExpressions

/-!
# Sources that differ in blanks around commas

The names that a source declares are read from its tokens, and its tables are written word by word.
Blanks around commas make no difference to the tokens, so what the rest of a statement is resolved
with stays the same. Where no comma sticks to what follows it, a word is resolved as its tokens are,
and the FROM clause stays the same but for these blanks. A name that sticks to the comma in front of
it is declared, but it is no word of its own and stays in the FROM clause as it is.

## Main definitions

* `Criteria.withSource`, criteria with another source
* `Select.mapSource`, a read with another FROM clause

## Main results

* `Scope.token_commas` — commas behind a token stay behind it
* `Scope.script_withoutFrom` — a spaced source is resolved token by token
* `Scope.token_of_listed`, `Scope.token_of_comma` — names behind commas
* `Criteria.compile_of_tight` — reads of sources that differ in blanks around commas
-/

namespace BoundQuery

open Text Outcome

namespace Scope

variable {s : Scope} {w : String}

/-! ### Commas behind a token -/

theorem tokenParts_comma (cs : List Char) : tokenParts (cs ++ [',']) =
    ((tokenParts cs).1, (tokenParts cs).2.1, (tokenParts cs).2.2 ++ [',']) := by
  have comma : isTrailer ',' = true := rfl
  simp [tokenParts, comma]

theorem token_comma (w : String) : s.token (w ++ ",") = (s.token w).map (· ++ ",") := by
  have chars : (w ++ ",").toList = w.toList ++ [','] := by simp
  rw [token, token, chars, tokenParts_comma]
  obtain ⟨outer, core, trailer⟩ := tokenParts w.toList
  cases core with
  | nil => rfl
  | cons c cs =>
    have trailing (before : String) : before ++ String.ofList (trailer ++ [',']) =
        before ++ String.ofList trailer ++ "," := by
      rw [String.ofList_append, ← String.append_assoc]
    dsimp only
    simp only [trailing]
    cases s.key (String.ofList (c :: cs)) with
    | error e => rfl
    | ok sql => rfl

/-- Commas behind a token stay behind it. -/
theorem token_commas (w : String) (k : Nat) : s.token (w ++ String.ofList (List.replicate k ',')) =
    (s.token w).map (· ++ String.ofList (List.replicate k ',')) := by
  induction k with
  | zero =>
    have none : String.ofList (List.replicate 0 ',') = "" := rfl
    simp only [none, String.append_empty]
    cases s.token w with
    | error e => rfl
    | ok sql => rfl
  | succ k ih =>
    have last : String.ofList (List.replicate (k + 1) ',') =
        String.ofList (List.replicate k ',') ++ "," := by
      rw [List.replicate_succ', String.ofList_append]
    simp only [last, ← String.append_assoc]
    rw [token_comma, ih]
    cases s.token w with
    | error e => rfl
    | ok sql => rfl

/-! ### Words and tokens -/

/-- Texts with a blank in front of each. -/
def laid (ts : List String) : List Char :=
  ts.flatMap fun t => ' ' :: t.toList

theorem laid_cons (t : String) (ts : List String) : laid (t :: ts) = laid [t] ++ laid ts := by
  simp [laid]

theorem laid_eq {ts : List String} (given : ts ≠ []) :
    laid ts = ' ' :: (joinWith " " ts).toList := by
  fun_induction joinWith " " ts with
  | case1 => exact absurd rfl given
  | case2 t => simp [laid]
  | case3 t ts more ih =>
    rw [laid, List.flatMap_cons, ← laid, ih more]
    simp

theorem tightened_commas (k : Nat) :
    tightened (List.replicate k ',') = tightened (laid (List.replicate k ",")) := by
  induction k with
  | zero => rfl
  | succ k ih =>
    have first : laid (List.replicate (k + 1) ",") =
        ' ' :: ',' :: laid (List.replicate k ",") := rfl
    rw [first, List.replicate_succ]
    simp only [tightened, List.foldr_cons, tighten_comma]
    rw [← tightened, ← tightened, ih, tighten_blank rfl rfl]

/-- The blank that words are joined with goes into a comma behind it. -/
theorem tightened_blank_commas (k : Nat) :
    tightened (' ' :: List.replicate (k + 1) ',') = tightened (List.replicate (k + 1) ',') := by
  rw [tightened, List.foldr_cons, ← tightened, List.replicate_succ, tighten_blank rfl]
  rw [tightened, List.foldr_cons, tighten_comma]
  rfl

theorem mapM_commas (k : Nat) :
    (List.replicate k ",").mapM s.token = .ok (List.replicate k ",") := by
  have each : ∀ t ∈ List.replicate k ",", s.token t = .ok (id t) := by
    intro t member
    rw [List.eq_of_mem_replicate member]
    rfl
  rw [mapM_eq_map each, List.map_id]

/-- A spaced word is resolved as its tokens are. -/
theorem token_of_isSpaced (given : w ≠ "") (solid : Solid w) (spaced : isSpaced w.toList) :
    (s.token w).map (fun sql => tightened (laid [sql])) =
      ((Source.tokens w).mapM s.token).map fun sqls => tightened (laid sqls) := by
  obtain ⟨u, k, whole, -, -, tokenized⟩ := Source.tokens_of_isSpaced solid spaced
  rw [tokenized, whole, token_commas]
  by_cases none : u = ""
  · -- commas alone; there is one at least
    subst none
    cases k with
    | zero => exact absurd whole given
    | succ k =>
      rw [if_pos rfl, List.nil_append, mapM_commas]
      refine congrArg Except.ok ?_
      have one : laid ["" ++ String.ofList (List.replicate (k + 1) ',')] =
          ' ' :: List.replicate (k + 1) ',' := by
        simp [laid]
      dsimp only
      rw [one, ← tightened_commas, tightened_blank_commas]
  · rw [if_neg none, List.singleton_append, List.mapM_cons, mapM_commas]
    cases s.token u with
    | error e => rfl
    | ok sql =>
      refine congrArg Except.ok ?_
      have left : laid [sql ++ String.ofList (List.replicate k ',')] =
          laid [sql] ++ List.replicate k ',' := by
        simp [laid]
      dsimp only
      rw [left, laid_cons sql (List.replicate k ",")]
      exact tightened_append rfl (tightened_commas k)

/-- Spaced words are resolved as their tokens are, one after the other. -/
theorem mapM_token_of_isSpaced {ws : List String}
    (each : ∀ w ∈ ws, w ≠ "" ∧ Solid w ∧ isSpaced w.toList) :
    (ws.mapM s.token).map (fun sqls => tightened (laid sqls)) =
      ((ws.flatMap Source.tokens).mapM s.token).map fun sqls => tightened (laid sqls) := by
  induction ws with
  | nil => rfl
  | cons w ws ih =>
    rw [List.forall_mem_cons] at each
    obtain ⟨⟨given, solid, spaced⟩, later⟩ := each
    rw [List.mapM_cons, List.flatMap_cons, List.mapM_append]
    rcases map_eq_map_iff.mp (token_of_isSpaced (s := s) given solid spaced) with
      ⟨e, ofWord, ofTokens⟩ | ⟨sql, sqls, ofWord, ofTokens, first⟩
    · rw [ofWord, ofTokens]
      rfl
    · rw [ofWord, ofTokens]
      rcases map_eq_map_iff.mp (ih later) with
        ⟨e, ofWords, ofRest⟩ | ⟨xs, ys, ofWords, ofRest, rest⟩
      · rw [ofWords, ofRest]
        rfl
      · rw [ofWords, ofRest]
        refine congrArg Except.ok ?_
        have both : laid (sqls ++ ys) = laid sqls ++ laid ys := List.flatMap_append
        dsimp only
        rw [laid_cons sql xs, both]
        exact tightened_append first rest

theorem ne_nil_of_mapM {ts sqls : List String} (given : ts ≠ []) (ok : ts.mapM s.token = .ok sqls) :
    sqls ≠ [] := by
  rintro rfl
  exact given (List.forall₂_nil_right_iff.mp (mapM_eq_ok_iff.mp ok))

/-- A spaced source without its FROM is resolved token by token, but for blanks around commas. -/
theorem script_withoutFrom {a : String} (spaced : isSpaced a.toList)
    (apart : Source.commaAfterFrom (Source.tokens a) = false) :
    (s.script (Source.withoutFrom a)).map tight =
      ((Source.dropFrom (Source.tokens a)).mapM s.token).map
        fun sqls => tight (joinWith " " sqls) := by
  have each : ∀ w ∈ Source.dropFrom (words a), w ≠ "" ∧ Solid w ∧ isSpaced w.toList := by
    intro w member
    have isWord : w ∈ words a := Source.mem_of_mem_dropFrom member
    obtain ⟨given, solid⟩ := solid_of_mem_words isWord
    exact ⟨given, solid, isSpaced_of_mem_words spaced isWord⟩
  -- with a blank in front of each word the parts can be put together, so one is put there first
  rw [script, Source.words_dropFrom, ← Source.flatMap_tokens_dropFrom spaced apart]
  rcases map_eq_map_iff.mp (mapM_token_of_isSpaced (s := s) each) with
    ⟨e, ofWords, ofTokens⟩ | ⟨xs, ys, ofWords, ofTokens, same⟩
  · rw [ofWords, ofTokens]
    rfl
  · rw [ofWords, ofTokens]
    refine congrArg Except.ok ?_
    cases parts : Source.dropFrom (words a) with
    | nil =>
      rw [parts] at ofWords ofTokens
      obtain rfl := Except.ok.inj ofWords
      obtain rfl := Except.ok.inj ofTokens
      rfl
    | cons w ws =>
      have givenWords : Source.dropFrom (words a) ≠ [] := by simp [parts]
      have givenTokens : (Source.dropFrom (words a)).flatMap Source.tokens ≠ [] := by
        obtain ⟨given, solid, -⟩ := each w (by simp [parts])
        simp [parts, Source.tokens_ne_nil given solid]
      rw [laid_eq (ne_nil_of_mapM givenWords ofWords),
        laid_eq (ne_nil_of_mapM givenTokens ofTokens)] at same
      exact tight_eq_iff.mpr (tightened_of_blank_cons same)

/-! ### Names behind commas -/

theorem markClass_comma : MarkClass (· == ',') :=
  .single (by decide) (by decide) (by decide)

theorem comma_free_of_marks (lacks : marks (· == ',') w = []) : ',' ∉ w.toList := fun member =>
  absurd (marks_eq_nil_iff.mp lacks ',' member) (by decide)

/-- A name that the source declares for itself is the table of its entity. -/
theorem token_of_listed {f : Entity} (named : Source.isName w)
    (stands : s.aliases.find? w = some w) (found : s.catalog.lookup? w = some f) :
    s.token w = .ok f.table := by
  obtain ⟨given, bare⟩ := Source.bare_of_isName named
  rw [token_of_bare given bare, simpleKey_of_named stands found]

theorem comma_free_of_isIdentifier (identifier : isIdentifier w) : ',' ∉ w.toList := fun member =>
  absurd (continuesIdentifier_of_mem identifier ',' member) (by decide +kernel)

/-- A text with a comma is no name, no spelling of the entity and no property. -/
theorem simpleKey_of_comma (declared : ∀ d ∈ s.aliases.entries, isIdentifier d.1)
    (lacks : s.entity.Lacks (· == ',')) (comma : ',' ∈ w.toList) : s.simpleKey w = w := by
  have noTable : s.namedTable? w = none := by
    rw [namedTable?, if_neg]
    intro stands
    have identifier := declared _ (Dictionary.mem_of_find? (beq_iff_eq.mp stands))
    exact comma_free_of_isIdentifier identifier comma
  have notSelf : s.entity.isSelf w = false := by
    rw [Bool.eq_false_iff]
    intro self
    exact comma_free_of_marks (lacks.of_isSelf markClass_comma self) comma
  have noColumn : s.entity.column? w = none := by
    rw [Entity.column?, Option.map_eq_none_iff, Entity.property?]
    cases found : s.entity.properties.find? w with
    | none => rfl
    | some property =>
      have marked := (lacks.properties _ (Dictionary.mem_of_find? found)).1
      exact absurd comma (comma_free_of_marks marked)
  simp only [simpleKey, noTable, notSelf, noColumn]
  rfl

/-- Where names have no commas, a key with a comma inside is no name and stays as it is. -/
theorem key_of_comma (declared : ∀ d ∈ s.aliases.entries, isIdentifier d.1)
    (lacks : s.entity.Lacks (· == ',')) (solid : Solid w) (comma : ',' ∈ w.toList) :
    s.key w = .ok w := by
  rw [key, trim_of_solid solid]
  cases cut : cutAt '.' w with
  | some parts =>
    obtain ⟨qualifier, property⟩ := parts
    -- the comma is in one of the two parts
    refine if_neg fun identifiers => ?_
    rw [Bool.and_eq_true] at identifiers
    rw [eq_append_of_cutAt cut] at comma
    simp only [String.toList_append, String.toList_singleton, List.mem_append,
      List.mem_singleton] at comma
    rcases comma with (member | point) | member
    · exact comma_free_of_isIdentifier identifiers.1 member
    · cases point
    · exact comma_free_of_isIdentifier identifiers.2 member
  | none => exact congrArg Except.ok (simpleKey_of_comma declared lacks comma)

/-- A word with a comma inside its key stays as it is. -/
theorem token_of_comma (declared : ∀ d ∈ s.aliases.entries, isIdentifier d.1)
    (lacks : s.entity.Lacks (· == ',')) (solid : Solid w)
    (comma : ',' ∈ (tokenParts w.toList).2.1) : s.token w = .ok w := by
  have whole := tokenParts_append w.toList
  obtain ⟨⟨outer, core, trailer⟩, parts⟩ : ∃ p, tokenParts w.toList = p := ⟨_, rfl⟩
  rw [parts] at comma whole
  have solidCore : Solid (String.ofList core) := by
    intro c member
    rw [String.toList_ofList] at member
    exact solid c (whole ▸ List.mem_append_left _ (List.mem_append_right _ member))
  have given : String.ofList core ≠ "" := by
    intro empty
    rw [← String.toList_ofList (l := core), empty] at comma
    cases comma
  have cut : tokenParts w.toList = ((String.ofList outer).toList, (String.ofList core).toList,
      (String.ofList trailer).toList) := by
    simp [parts]
  rw [token_of_parts cut given, key_of_comma declared lacks solidCore (by simpa using comma)]
  refine congrArg Except.ok ?_
  dsimp only at whole ⊢
  rw [← String.ofList_append, ← String.ofList_append, whole, String.ofList_toList]

end Scope

namespace Source

/-- A leading FROM is not all that is there. -/
theorem dropFrom_ne_nil (front : List String) {w : String} {back : List String} :
    dropFrom (front ++ "," :: w :: back) ≠ [] := by
  cases front with
  | nil =>
    rw [List.nil_append, dropFrom, if_neg (by decide)]
    exact List.cons_ne_nil _ _
  | cons t front =>
    rw [List.cons_append, dropFrom]
    split
    · simp
    · exact List.cons_ne_nil _ _

/-- A name behind a comma is declared for itself, unless the source gives it to another entity. -/
theorem find?_listed {ts front back : List String} {w : String}
    (listed : ts = front ++ "," :: w :: back) (named : isName w)
    (own : ∀ d ∈ declarations true ts, d.1 = w → d.2 = w) :
    (Dictionary.ofList (declarations true ts)).find? w = some w := by
  have stops : Stops ("," :: w :: back) := by
    rintro t ⟨⟩
    decide +kernel
  obtain ⟨b, parts⟩ := declarations_append stops true front
  have member : (w, w) ∈ declarations true ts := by
    rw [listed, parts, declarations_announced rfl, declarations_named named]
    exact List.mem_append_right _ List.mem_cons_self
  -- the last declaration of a name counts
  rw [Dictionary.find?_ofList]
  cases found : (declarations true ts).reverse.find? fun d => d.1 == w with
  | none =>
    have absent := List.find?_eq_none.mp found (w, w) (List.mem_reverse.mpr member)
    exact absurd (beq_self_eq_true w) absent
  | some d =>
    have isEntry := List.mem_reverse.mp (List.mem_of_find?_eq_some found)
    have named : d.1 = w := by simpa using List.find?_some found
    rw [Option.map_some, own d isEntry named]

end Source

/-- The read with another FROM clause. -/
def Select.mapSource (f : String → String) (r : Select) : Select :=
  { r with source := f r.source }

namespace Criteria

variable {c : Criteria} {a b : String} {catalog : Catalog} {settings : Settings} {e : Entity}
  {scope : Scope} {f : String → String}

/-- The criteria with another source. -/
def withSource (c : Criteria) (source : String) : Criteria :=
  { c with source := some source }

/-! ### Reads of one scope -/

theorem sourceScript_withSource (c : Criteria) (a : String) (e : Entity) :
    (c.withSource a).sourceScript e =
      if Source.withoutFrom a = "" then e.scriptName else Source.withoutFrom a := by
  rw [sourceScript, withSource, Option.getD_some]
  simp only [String.isEmpty_iff]

/-- The names that a read can use come from the tokens of its source. -/
theorem scope_withSource (same : tight a = tight b) (catalog : Catalog) (e : Entity) :
    (c.withSource a).scope catalog e = (c.withSource b).scope catalog e := by
  have tokens := Source.tokens_of_tight same
  have empty : Source.withoutFrom a = "" ↔ Source.withoutFrom b = "" := by
    rw [Source.withoutFrom_eq_empty_iff, Source.withoutFrom_eq_empty_iff, tokens]
  have declared : Source.aliases ((c.withSource a).sourceScript e) =
      Source.aliases ((c.withSource b).sourceScript e) := by
    rw [sourceScript_withSource, sourceScript_withSource]
    by_cases none : Source.withoutFrom a = ""
    · rw [if_pos none, if_pos (empty.mp none)]
    · rw [if_neg none, if_neg fun none' => none (empty.mpr none'), Source.aliases, Source.aliases,
        Source.declarations_withoutFrom, Source.declarations_withoutFrom, tokens]
  rw [scope, scope, declared]
  rfl

theorem aliases_withSource (projected : c.projected.isSome) (given : Source.withoutFrom a ≠ "") :
    ((c.withSource a).scope catalog e).aliases =
      Dictionary.ofList (Source.declarations true (Source.tokens a)) := by
  have stillProjected : (c.withSource a).projected.isSome := projected
  rw [scope, if_pos stillProjected, sourceScript_withSource, if_neg given, Source.aliases,
    Source.declarations_withoutFrom]

/-- The names that a read declares are identifiers. -/
theorem isIdentifier_of_mem_scope {d : String × String}
    (member : d ∈ (c.scope catalog e).aliases.entries) : isIdentifier d.1 := by
  rw [scope] at member
  split at member
  · exact Source.isIdentifier_of_mem_aliases member
  · cases member

/-- The clauses of a read that are resolved in the scope, with a given FROM clause. -/
def assembled (c : Criteria) (scope : Scope) (settings : Settings)
    (source : Except CompileError String) : Except CompileError Select := do
  let projection ← c.projection scope settings
  let source ← source
  let filter ← Filter.compile ⟨scope, settings.dialect⟩ .whereFirst (c.effectiveConditions scope)
  let groupBy ← (c.groupByClause scope).outcome
  let having ← Having.clause settings.dialect projection.having
  let orderBy ← c.orderByClause scope
  return {
    columns := joinWith ", " projection.columns
    counted := projection.counted
    countAlias := if c.ignoresTotal then none else some settings.countAlias
    source, filter, groupBy, having, orderBy
    labels := projection.labels }

theorem outcome_compile (found : catalog.lookup? c.entity = some e) :
    (c.compile catalog settings).outcome = c.assembled (c.scope catalog e) settings
      (c.fromClause (c.scope catalog e) settings.dialect).outcome := by
  rw [compile, assembled]
  simp only [found, Attempt.outcome_bind, Attempt.outcome_lift, Attempt.outcome_pure]
  rfl

/-- The FROM clause goes into a read as it is. -/
theorem map_assembled {x y : Except CompileError String} (same : x.map f = y.map f) :
    (c.assembled scope settings x).map (Select.mapSource f) =
      (c.assembled scope settings y).map (Select.mapSource f) := by
  rw [assembled, assembled]
  -- the clauses fail in their order, and what does not fail is the same on both sides
  cases c.projection scope settings with
  | error error => rfl
  | ok projection =>
    rcases map_eq_map_iff.mp same with ⟨error, rfl, rfl⟩ | ⟨source, other, rfl, rfl, alike⟩
    · rfl
    · simp only [ok_bind]
      cases Filter.compile ⟨scope, settings.dialect⟩ .whereFirst (c.effectiveConditions scope) with
      | error error => rfl
      | ok filter =>
        cases (c.groupByClause scope).outcome with
        | error error => rfl
        | ok groupBy =>
          cases Having.clause settings.dialect projection.having with
          | error error => rfl
          | ok having =>
            cases c.orderByClause scope with
            | error error => rfl
            | ok orderBy => simp [ok_bind, Except.map, Select.mapSource, alike, pure, Except.pure]

/-! ### The FROM clause -/

/-- A FROM clause with its hint. -/
theorem clauses_from (script hint : String) : Select.clauses ["FROM " ++ script, hint] =
    "FROM " ++ script ++ if hint = "" then "" else " " ++ hint := by
  have given : ("FROM " ++ script).isEmpty = false := by
    rw [Bool.eq_false_iff, ne_eq, String.isEmpty_iff, ← String.toList_inj]
    simp
  by_cases none : hint = ""
  · simp [Select.clauses, given, none, joinWith]
  · have some : hint.isEmpty = false := by simpa using none
    simp [Select.clauses, given, some, none, joinWith, String.append_assoc]

/-- FROM clauses agree when their scripts do, where `f` looks at the script alone. -/
theorem map_fromClause
    (congr : ∀ hint x y, f x = f y →
      f (Select.clauses ["FROM " ++ x, hint]) = f (Select.clauses ["FROM " ++ y, hint]))
    (same : (scope.script ((c.withSource a).sourceScript scope.entity)).map f =
      (scope.script ((c.withSource b).sourceScript scope.entity)).map f) (d : Dialect) :
    ((c.withSource a).fromClause scope d).outcome.map f =
      ((c.withSource b).fromClause scope d).outcome.map f := by
  have hints (a : String) : (c.withSource a).forceIndex = c.forceIndex := rfl
  rw [fromClause, fromClause, Attempt.outcome_bind, Attempt.outcome_bind, Attempt.outcome_lift,
    Attempt.outcome_lift]
  simp only [hints]
  rcases map_eq_map_iff.mp same with ⟨error, left, right⟩ | ⟨x, y, left, right, alike⟩
  · rw [left, right]
  · rw [left, right, ok_bind, ok_bind]
    cases given? c.forceIndex with
    | none => exact congrArg Except.ok (congr "" x y alike)
    | some index =>
      cases d with
      | mysql => exact congrArg Except.ok (congr _ x y alike)
      | clickhouse => exact congrArg Except.ok (congr "" x y alike)

theorem tight_clauses (hint x y : String) (same : tight x = tight y) :
    tight (Select.clauses ["FROM " ++ x, hint]) = tight (Select.clauses ["FROM " ++ y, hint]) := by
  rw [clauses_from, clauses_from]
  exact tight_append (tight_append rfl same) rfl

/-- Spaced sources are resolved alike, but for blanks around commas. -/
theorem script_respaced (same : tight a = tight b) (spaced : isSpaced a.toList)
    (spacedOther : isSpaced b.toList)
    (apart : Source.commaAfterFrom (Source.tokens a) = false) (e : Entity) :
    (scope.script ((c.withSource a).sourceScript e)).map tight =
      (scope.script ((c.withSource b).sourceScript e)).map tight := by
  have tokens := Source.tokens_of_tight same
  rw [sourceScript_withSource, sourceScript_withSource]
  by_cases none : Source.withoutFrom a = ""
  · have none' : Source.withoutFrom b = "" := by
      rwa [Source.withoutFrom_eq_empty_iff, ← tokens, ← Source.withoutFrom_eq_empty_iff]
    rw [if_pos none, if_pos none']
  · have some : Source.withoutFrom b ≠ "" := by
      rwa [ne_eq, Source.withoutFrom_eq_empty_iff, ← tokens, ← Source.withoutFrom_eq_empty_iff]
    rw [if_neg none, if_neg some, Scope.script_withoutFrom spaced apart,
      Scope.script_withoutFrom spacedOther (tokens ▸ apart), tokens]

/-- What a read looks up in its source is the same where the sources are resolved alike. -/
theorem map_compile (same : tight a = tight b)
    (congr : ∀ hint x y, f x = f y →
      f (Select.clauses ["FROM " ++ x, hint]) = f (Select.clauses ["FROM " ++ y, hint]))
    (alike : ∀ e, catalog.lookup? c.entity = some e →
      (((c.withSource a).scope catalog e).script ((c.withSource a).sourceScript e)).map f =
        (((c.withSource b).scope catalog e).script ((c.withSource b).sourceScript e)).map f) :
    ((c.withSource a).compile catalog settings).outcome.map (Select.mapSource f) =
      ((c.withSource b).compile catalog settings).outcome.map (Select.mapSource f) := by
  cases found : catalog.lookup? c.entity with
  | none =>
    have unknown (a : String) : ((c.withSource a).compile catalog settings).outcome =
        .error (.unresolvedEntity c.entity) := by
      have entity : catalog.lookup? (c.withSource a).entity = none := found
      rw [compile, entity]
      rfl
    rw [unknown, unknown]
  | some e =>
    have scopes := scope_withSource (c := c) same catalog e
    have scripts := alike e found
    rw [← scopes] at scripts
    rw [outcome_compile (c := c.withSource a) found, outcome_compile (c := c.withSource b) found,
      ← scopes]
    exact map_assembled (map_fromClause congr scripts settings.dialect)

/-- Reads of sources that differ in blanks around commas only. They can use the same names; so where
both sources are resolved, they fail alike or agree in all but the FROM clause. Where no comma
sticks to what follows it, and none follows a leading FROM, they fail alike or agree in the FROM
clause too, but for blanks around commas. Then the FROM clause is the tokens, resolved one by one;
and a registered entity behind a comma is its table, unless the source gives its name to another
entity. A word with a comma inside its key stays as it is, where the names of the entity have no
commas. -/
theorem compile_of_tight (c : Criteria) (catalog : Catalog) (settings : Settings)
    (same : tight a = tight b) :
    (∀ e, (c.withSource a).scope catalog e = (c.withSource b).scope catalog e) ∧
    ((∀ e, catalog.lookup? c.entity = some e → ∃ x y,
        ((c.withSource a).scope catalog e).script ((c.withSource a).sourceScript e) = .ok x ∧
        ((c.withSource b).scope catalog e).script ((c.withSource b).sourceScript e) = .ok y) →
      ((c.withSource a).compile catalog settings).outcome.map (Select.mapSource fun _ => "") =
        ((c.withSource b).compile catalog settings).outcome.map (Select.mapSource fun _ => "")) ∧
    (isSpaced a.toList → isSpaced b.toList → Source.commaAfterFrom (Source.tokens a) = false →
      ((c.withSource a).compile catalog settings).outcome.map (Select.mapSource tight) =
        ((c.withSource b).compile catalog settings).outcome.map (Select.mapSource tight)) ∧
    ∀ e,
      (isSpaced a.toList → Source.commaAfterFrom (Source.tokens a) = false →
        Source.withoutFrom a ≠ "" →
        (((c.withSource a).scope catalog e).script ((c.withSource a).sourceScript e)).map tight =
          ((Source.dropFrom (Source.tokens a)).mapM ((c.withSource a).scope catalog e).token).map
            fun sqls => tight (joinWith " " sqls)) ∧
      (c.projected.isSome → ∀ front w back f,
        Source.tokens a = front ++ "," :: w :: back → Source.isName w → catalog.lookup? w = some f →
        (∀ d ∈ Source.declarations true (Source.tokens a), d.1 = w → d.2 = w) →
        ((c.withSource a).scope catalog e).token w = .ok f.table) ∧
      (e.Lacks (· == ',') → ∀ w, Solid w → ',' ∈ (Scope.tokenParts w.toList).2.1 →
        ((c.withSource a).scope catalog e).token w = .ok w) := by
  refine ⟨scope_withSource same catalog, ?_, ?_, ?_⟩
  · intro resolved
    refine map_compile same (fun _ _ _ _ => rfl) fun e found => ?_
    obtain ⟨x, y, left, right⟩ := resolved e found
    rw [left, right]
    rfl
  · intro spaced spacedOther apart
    refine map_compile same tight_clauses fun e _ => ?_
    rw [scope_withSource same catalog e]
    exact script_respaced same spaced spacedOther apart e
  · intro e
    refine ⟨?_, ?_, ?_⟩
    · intro spaced apart given
      rw [sourceScript_withSource, if_neg given]
      exact Scope.script_withoutFrom spaced apart
    · intro projected front w back f listed named found own
      have given : Source.withoutFrom a ≠ "" := by
        rw [ne_eq, Source.withoutFrom_eq_empty_iff, listed]
        exact Source.dropFrom_ne_nil front
      refine Scope.token_of_listed named ?_ found
      rw [aliases_withSource projected given]
      exact Source.find?_listed listed named own
    · intro lacks w solid comma
      exact Scope.token_of_comma (fun d => isIdentifier_of_mem_scope) lacks solid comma

/-- A blank more in front of a comma, and two behind it. -/
theorem compile_of_tight_items :
    tight "order o, orderItem i" = tight "order o ,  orderItem i" ∧
      (((Depot.items "order o, orderItem i").compile Depot.catalog {}).outcome.map fun r =>
          r.source) = .ok "FROM t_order o, t_order_item i" ∧
      ((Depot.items "order o, orderItem i").compile Depot.catalog {}).outcome.map
          (Select.mapSource tight) =
        ((Depot.items "order o ,  orderItem i").compile Depot.catalog {}).outcome.map
          (Select.mapSource tight) ∧
      ((Depot.items "order o, orderItem i").scope Depot.catalog Depot.order).token "orderItem" =
        .ok "t_order_item" := by
  have same : tight "order o, orderItem i" = tight "order o ,  orderItem i" := by decide +kernel
  obtain ⟨-, -, alike, listed⟩ := compile_of_tight (Depot.items "") Depot.catalog {} same
  obtain ⟨-, tables, -⟩ := listed Depot.order
  refine ⟨same, by decide +kernel, alike (by decide) (by decide) (by decide +kernel), ?_⟩
  exact tables rfl ["order", "o"] "orderItem" ["i"] Depot.orderItem (by decide +kernel)
    (by decide +kernel) rfl (by decide +kernel)

end Criteria

/-- Without a blank behind the comma the second entity is declared, and its alias is resolved, but
its name stays in the FROM clause; and a qualifier that stands for nothing is not found out. -/
theorem Criteria.compile_of_touching_comma :
    tight "order o,orderItem i" = tight "order o, orderItem i" ∧
      (((Depot.items "order o,orderItem i").compile Depot.catalog {}).outcome.map fun r =>
          (r.columns, r.source)) = .ok ("i.id AS c0", "FROM t_order o,orderItem i") ∧
      (((Depot.items "order o, orderItem i").compile Depot.catalog {}).outcome.map fun r =>
          (r.columns, r.source)) = .ok ("i.id AS c0", "FROM t_order o, t_order_item i") ∧
      (((Depot.items "order o, orderItem i,x.y").compile Depot.catalog {}).outcome.map fun r =>
          r.source) = .ok "FROM t_order o, t_order_item i,x.y" ∧
      (((Depot.items "order o, orderItem i, x.y").compile Depot.catalog {}).outcome.map fun r =>
          r.source) = .error (.unresolvedEntity "x") :=
  ⟨by decide +kernel, by decide +kernel, by decide +kernel, by decide +kernel, by decide +kernel⟩

end BoundQuery
