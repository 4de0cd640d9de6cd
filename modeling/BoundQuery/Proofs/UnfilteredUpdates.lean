import BoundQuery.Proofs.InkedText
import BoundQuery.Proofs.Positions
import BoundQuery.Proofs.UpdateAlignment

/-!
# Updates of whole tables

An update without a WHERE clause changes every row. This happens exactly when each leaf of its
conditions either compares a known property with the default of its column, and is pruned, or gives
no text by itself.

## Main definitions

* `Condition.Offers`, the one value that a leaf compares its key with
* `Scope.ComparesDefault`, leaves that compare a property with its default
* `Condition.Silent`, leaves that give no text by themselves

## Main results

* `Filter.leafBody_eq_none_iff` — a leaf gives nothing exactly when it is silent
* `Filter.terms_pruned_eq_nil_iff` — pruned conditions are empty exactly when no leaf is left to
  speak
* `UpdateStatement.whereClause_eq_empty_iff` — only blank conditions have no WHERE clause
* `Update.wherePart_eq_empty_iff` — the updates of whole tables
-/

namespace BoundQuery

open Text

namespace Condition

/-- The leaf compares its key with this value alone: it is the operand of a comparison, or the one
candidate of a membership. -/
inductive Offers (c : Condition) (v : Value) : Prop where
  | comparison (kind : c.predicate.isComparison) (given : c.operand = some (.value v))
  | member (kind : c.predicate.isMembership) (given : c.operand = some (.value v))
  | list (kind : c.predicate.isMembership) (given : c.operand = some (.list [v]))

/-- The leaf gives no text by itself: it is the mark of a group, a blank script, a null check of
nothing, or compares its key with an absent operand, or compares a blank key. -/
inductive Silent (c : Condition) : Prop where
  | marker (kind : c.predicate.shape = .marker)
  | script (kind : c.predicate.shape = .script) (blank : isBlankText c.key)
  | nullCheck (kind : c.predicate.shape = .nullCheck) (blank : isBlankText c.key)
    (blankText : ∀ s, c.operand = some (.value (.text s)) → isBlankText s)
  | absent (kind : c.predicate.shape.comparesKey)
    (absent : ∀ operand, c.operand = some operand → operand.isAbsent)
  | blankKey (kind : c.predicate.shape.comparesKey) (blank : isBlankText c.key)

variable {c : Condition} {v : Value}

theorem candidate?_eq_some_iff : c.candidate? = some v ↔ c.Offers v := by
  constructor
  · intro offered
    rw [candidate?] at offered
    split at offered
    · next kind =>
      obtain ⟨operand, given, scalar⟩ := Option.bind_eq_some_iff.mp offered
      cases operand with
      | value w => exact .comparison kind (by rw [given, Option.some.inj scalar])
      | list ws => cases scalar
      | range low high => cases scalar
    · split at offered
      · next kind =>
        split at offered
        · next w given => exact .member kind (by rw [given, Option.some.inj offered])
        · next w given => exact .list kind (by rw [given, Option.some.inj offered])
        · cases offered
      · cases offered
  · intro offers
    have notBoth : c.predicate.isMembership → c.predicate.isComparison = false := by
      cases c.predicate <;> decide
    cases offers with
    | comparison kind given => rw [candidate?, if_pos kind, scalar?, given]; rfl
    | member kind given => rw [candidate?, notBoth kind, kind, given]; rfl
    | list kind given => rw [candidate?, notBoth kind, kind, given]; rfl

/-- The expression of a null check is blank when its key and its text are. -/
theorem isBlankText_checked : isBlankText (Filter.checked c) ↔
    isBlankText c.key ∧ ∀ s, c.operand = some (.value (.text s)) → isBlankText s := by
  have scalar : ∀ w, c.scalar? = some w ↔ c.operand = some (.value w) := by
    intro w
    rw [scalar?, Option.bind_eq_some_iff]
    constructor
    · rintro ⟨operand, given, single⟩
      cases operand with
      | value u => rw [given, Option.some.inj single]
      | list us => cases single
      | range low high => cases single
    · intro given
      exact ⟨_, given, rfl⟩
  rw [Filter.checked]
  split
  · next s given =>
    rw [scalar] at given
    -- a text that is not blank takes the place of the key
    by_cases blank : isBlankText s
    · rw [if_pos blank]
      constructor
      · intro blankKey
        refine ⟨blankKey, fun t same => ?_⟩
        rw [given] at same
        cases same
        exact blank
      · exact fun both => both.1
    · rw [if_neg blank]
      exact iff_of_false blank fun both => blank (both.2 s given)
  · next other =>
    constructor
    · intro blankKey
      refine ⟨blankKey, fun t same => absurd ((scalar _).mpr same) (other t)⟩
    · exact fun both => both.1

end Condition

/-- The leaf compares a known property with a value that is not null and is the default of the
property's column. -/
def Scope.ComparesDefault (s : Scope) (c : Condition) : Prop :=
  ∃ v e property, c.Offers v ∧ v.isNull = false ∧ s.owner? c.key = some (e, property) ∧
    e.isDefault property v

theorem Scope.holdsDefault_iff {s : Scope} {c : Condition} :
    s.holdsDefault c ↔ s.ComparesDefault c := by
  constructor
  · intro holds
    rw [holdsDefault] at holds
    split at holds
    · next v e property offered owner =>
      rw [Bool.and_eq_true, Bool.not_eq_true'] at holds
      exact ⟨v, e, property, Condition.candidate?_eq_some_iff.mp offered, holds.1, owner, holds.2⟩
    · cases holds
  · rintro ⟨v, e, property, offers, given, owner, isDefault⟩
    rw [holdsDefault, Condition.candidate?_eq_some_iff.mpr offers, owner]
    simp only [given, isDefault]
    rfl

/-! ### Leaves without text -/

namespace Filter

variable {f : Filter} {c : Condition} {cs : List Condition} {ts : List Term}

/-- A leaf gives nothing exactly when it is silent, where no table or column is blank. -/
theorem leafBody_eq_none_iff (names : f.scope.NamedBy Inked) :
    f.leafBody c = .ok none ↔ c.Silent := by
  constructor
  · intro nothing
    cases kind : c.predicate.shape with
    | marker => exact .marker kind
    | script =>
      refine .script kind ?_
      rw [leafBody_script kind, scriptBody_eq] at nothing
      obtain ⟨sql, resolved, nothing⟩ := Outcome.bind_eq_ok.mp nothing
      by_contra given
      -- a script that is not blank resolves to a text that is not empty
      have inked : Inked sql := names.script (by rwa [Bool.not_eq_true] at given) resolved
      have nonempty : sql.isEmpty = false := by
        rw [Bool.eq_false_iff]
        intro empty
        rw [show sql = "" by simpa using empty] at inked
        cases inked
      rw [nonempty] at nothing
      cases nothing
    | nullCheck =>
      have blank : isBlankText (checked c) := by
        by_contra given
        rw [leafBody_nullCheck kind, nullCheckBody, if_neg given] at nothing
        obtain ⟨sql, -, nothing⟩ := Outcome.bind_eq_ok.mp nothing
        cases nothing
      obtain ⟨blankKey, blankText⟩ := Condition.isBlankText_checked.mp blank
      exact .nullCheck kind blankKey blankText
    | _ =>
      have compares : c.predicate.shape.comparesKey := by rw [kind]; rfl
      rw [leafBody_comparesKey compares, predicateBody] at nothing
      split at nothing
      · next none => exact .absent compares fun operand given => by rw [none] at given; cases given
      · next operand given =>
        split at nothing
        · next skipped =>
          rw [Bool.or_eq_true] at skipped
          rcases skipped with absent | blank
          · refine .absent compares fun other same => ?_
            rw [given] at same
            cases same
            exact absent
          · exact .blankKey compares blank
        · obtain ⟨key, -, nothing⟩ := Outcome.bind_eq_ok.mp nothing
          obtain ⟨rest, -, nothing⟩ := Outcome.bind_eq_ok.mp nothing
          cases nothing
  · intro silent
    cases silent with
    | marker kind => exact leafBody_marker kind
    | script kind blank =>
      rw [leafBody_script kind, scriptBody_eq, Scope.script_of_blank blank]
      rfl
    | nullCheck kind blank blankText =>
      rw [leafBody_nullCheck kind, nullCheckBody,
        if_pos (Condition.isBlankText_checked.mpr ⟨blank, blankText⟩)]
      rfl
    | absent kind absent =>
      rw [leafBody_comparesKey kind, predicateBody]
      cases given : c.operand with
      | none => rfl
      | some operand => simp only [absent operand given, Bool.true_or, if_true]
    | blankKey kind blank =>
      rw [leafBody_comparesKey kind, predicateBody]
      cases c.operand with
      | none => rfl
      | some operand => simp only [blank, Bool.or_true, if_true]

/-- Conditions that render have no terms exactly when none of their leaves has a body. -/
theorem terms_eq_nil_iff_leaves (ok : f.terms cs = .ok ts) :
    ts = [] ↔ ∀ c ∈ Condition.leaves cs, f.leafBody c = .ok none := by
  induction cs using Condition.forest_induction generalizing ts with
  | nil =>
    rw [terms_nil] at ok
    rw [← Except.ok.inj ok, Condition.leaves_nil]
    simp
  | leaf c cs isLeaf ih =>
    obtain ⟨b, us, body, rest, rfl⟩ := (terms_leaf isLeaf).mp ok
    rw [Condition.leaves_leaf isLeaf, List.forall_mem_cons, ← ih rest, body]
    cases b with
    | none => simp
    | some b => simp
  | group c cs isGroup inner ih =>
    obtain ⟨children, us, ofChildren, rest, rfl⟩ := (terms_group isGroup).mp ok
    rw [Condition.leaves_group isGroup, List.forall_mem_append, ← inner ofChildren, ← ih rest,
      ← @enclosed_eq_none_iff children]
    cases enclosed children with
    | none => simp
    | some b => simp

/-- Pruned conditions have no terms exactly when each leaf compares a property with its default or
is silent. -/
theorem terms_pruned_eq_nil_iff (names : f.scope.NamedBy Inked)
    (ok : f.terms (f.scope.pruned cs) = .ok ts) :
    ts = [] ↔ ∀ c ∈ Condition.leaves cs, f.scope.ComparesDefault c ∨ c.Silent := by
  rw [terms_eq_nil_iff_leaves ok, Scope.leaves_pruned]
  refine forall_congr' fun c => ?_
  rw [List.mem_filter, leafBody_eq_none_iff names, ← Scope.holdsDefault_iff, Bool.not_eq_true',
    and_imp]
  refine imp_congr_right fun _ => ?_
  -- a leaf that holds a default is pruned, so only the others have to be silent
  cases f.scope.holdsDefault c with
  | true => simp
  | false => simp

/-- The text of a body is inked. -/
theorem inked_body {b : Fragment} (names : f.scope.NamedBy Inked)
    (ok : f.body c = .ok (some b)) : Inked b.sql := by
  by_cases isLeaf : c.children = []
  · rw [body_leaf isLeaf, Outcome.mapError_eq_ok, leafBody_eq_some_iff] at ok
    exact ok.inked names
  · rw [body_group isLeaf] at ok
    obtain ⟨ts, -, ok⟩ := Outcome.map_eq_ok.mp ok
    cases ts with
    | nil => cases ok
    | cons t ts =>
      have parenthesis : Inked "(" := rfl
      rw [← Option.some.inj ok]
      exact parenthesis.append_right _

/-- Rendered conditions are blank exactly when they have no terms. -/
theorem isBlankText_lay_iff (names : f.scope.NamedBy Inked) (ok : f.terms cs = .ok ts)
    (p : Position) : isBlankText (Fragment.sql (p.lay ts)) ↔ ts = [] := by
  cases ts with
  | nil => exact iff_of_true rfl rfl
  | cons t ts =>
    obtain ⟨-, c, -, -, -, -, body, -⟩ := terms_eq_cons ok
    have inked : Inked (Fragment.sql (p.lay (t :: ts))) := by
      rw [Position.lay, Fragment.sql_append, Fragment.sql_append]
      exact ((inked_body names body).append_left _).append_right _
    exact iff_of_false (by rw [inked]; exact Bool.false_ne_true) (List.cons_ne_nil t ts)

end Filter

/-! ### Statements without WHERE -/

namespace UpdateStatement

/-- Only blank conditions have no WHERE clause. -/
theorem whereClause_eq_empty_iff {s : String} : whereClause s = "" ↔ isBlankText s := by
  rw [← trim_eq_empty_iff, whereClause]
  by_cases empty : trim s = ""
  · rw [empty]
    exact iff_of_true rfl rfl
  · rw [if_neg (by simpa using empty)]
    refine iff_of_false ?_ empty
    simp

theorem wherePart_eq_empty_iff_filterClause {u : UpdateStatement} :
    u.wherePart = "" ↔ u.filterClause = "" := by
  rw [wherePart]
  by_cases empty : u.filterClause = ""
  · simp [empty]
  · simp [empty]

/-- A WHERE part that is not empty starts with WHERE. -/
theorem wherePart_of_ne_empty {u : UpdateStatement} (given : u.wherePart ≠ "") :
    ∃ text, u.wherePart = " WHERE " ++ text := by
  obtain ⟨lead, -, kept, -, leads, part, -⟩ := u.wherePart_eq
  rcases leads with ⟨rfl, rfl⟩ | rfl
  · exact absurd part given
  · exact ⟨kept, part⟩

end UpdateStatement

namespace Update

variable {u : Update} {catalog : Catalog} {d : Dialect} {s : UpdateStatement}

/-- An update is warned about exactly when its statement has no WHERE clause. -/
theorem warnings_compile {e : Entity} (found : catalog.lookup? u.entity = some e)
    (ok : (u.compile catalog d).outcome = .ok s) :
    (u.compile catalog d).warnings =
      if s.filterClause = "" then [.updateWithoutWhere e.name s.sql] else [] := by
  rw [compile] at ok ⊢
  simp only [found, Attempt.outcome_bind, Attempt.outcome_lift] at ok
  obtain ⟨entries, ofEntries, ok⟩ := Outcome.bind_eq_ok.mp ok
  obtain ⟨filter, ofFilter, ok⟩ := Outcome.bind_eq_ok.mp ok
  simp only [found]
  rw [Attempt.warnings_bind (a := entries) ofEntries, Attempt.warnings_bind (a := filter) ofFilter]
  -- neither the entries nor the conditions warn, so the statement alone decides
  split at ok
  · cases ok
  · next assigned =>
    rw [if_neg assigned]
    split at ok
    · next whole =>
      obtain rfl := Except.ok.inj ok
      rw [if_pos whole, if_pos (by simpa using whole)]
      rfl
    · next filtered =>
      obtain rfl := Except.ok.inj ok
      rw [if_neg filtered, if_neg (by simpa using filtered)]
      rfl

/-- Take a catalog that was built from a draft and an update that compiles. Its statement has no
WHERE part exactly when each leaf of its conditions compares a known property with the default of
the property's column or gives no text by itself. Then the statement ends behind its assignments and
is warned about; otherwise WHERE follows them, and there is no warning. -/
theorem wherePart_eq_empty_iff {draft : CatalogDraft} (built : draft.build = .ok catalog)
    (ok : (u.compile catalog d).outcome = .ok s) :
    ∃ e, catalog.lookup? u.entity = some e ∧
      (s.wherePart = "" ↔
        ∀ c ∈ Condition.leaves u.conditions, (scope catalog e).ComparesDefault c ∨ c.Silent) ∧
      (s.wherePart = "" →
        s.sql = "UPDATE " ++ e.table ++ " SET " ++
          Fragment.sql (Fragment.joined ", " s.assignments) ∧
        (u.compile catalog d).warnings = [.updateWithoutWhere e.name s.sql]) ∧
      (s.wherePart ≠ "" →
        (∃ text, s.sql = "UPDATE " ++ e.table ++ " SET " ++
          Fragment.sql (Fragment.joined ", " s.assignments) ++ " WHERE " ++ text) ∧
        (u.compile catalog d).warnings = []) := by
  obtain ⟨e, entries, filter, found, -, ofFilter, rfl⟩ := compile_eq_ok ok
  have warnings := warnings_compile found ok
  have catalogNames := CatalogDraft.inked_of_build built
  have names : (scope catalog e).NamedBy Inked :=
    ⟨catalogNames, catalogNames e (Catalog.mem_of_lookup? found)⟩
  have clause := UpdateStatement.wherePart_eq_empty_iff_filterClause
    (u := ⟨e.table, entries.filterMap id, filter⟩)
  refine ⟨e, found, ?_, ?_, ?_⟩
  · -- from the part to the clause, to its text, to the terms, to the leaves
    obtain ⟨ts, rendered, rfl⟩ := Filter.compile_eq_ok.mp ofFilter
    rw [clause, UpdateStatement.filterClause, UpdateStatement.whereClause_eq_empty_iff,
      Filter.isBlankText_lay_iff names rendered]
    exact Filter.terms_pruned_eq_nil_iff (f := ⟨scope catalog e, d⟩) names rendered
  · intro whole
    rw [warnings, if_pos (clause.mp whole), UpdateStatement.sql_eq, whole, String.append_empty]
    exact ⟨rfl, rfl⟩
  · intro filtered
    obtain ⟨text, part⟩ := UpdateStatement.wherePart_of_ne_empty filtered
    rw [warnings, if_neg fun empty => filtered (clause.mpr empty)]
    refine ⟨⟨text, ?_⟩, rfl⟩
    rw [UpdateStatement.sql_eq, part, ← String.append_assoc]
    rfl

end Update

namespace Ledger

/-- The ledger as it is written down. -/
def draft : CatalogDraft where
  name := some "ledger"
  entities := [{
    name := " Account"
    table := "t_account "
    properties := .ofList [("id", ⟨none, "integer", false, false⟩),
      ("state", ⟨some "account_state", "Text", false, false⟩),
      ("closedAt", ⟨some "closed_at", "timestamp", false, false⟩),
      ("amount", ⟨none, "double", false, false⟩)] }]

/-- An update whose conditions say nothing: defaults in and out of groups, a blank script, a null
check of nothing, an absent operand and a blank key. -/
def resetting : Update where
  entity := "Account"
  assignments := [.withValue .eq "state" (.constant "OPEN")]
  conditions := [
    .withValue .le "amount" (.int 0),
    .group [.noneOf "account.id" [.int 0], (Condition.script " " [.int 3]).joinedBy (some .or),
      .group [.isNull "", .withValue .like "state" .null]],
    .between " " (.int 1) (.int 2)]

theorem build_draft : draft.build = .ok catalog := by
  rfl

theorem silent_resetting : ∀ c ∈ Condition.leaves resetting.conditions,
    (Update.scope catalog account).ComparesDefault c ∨ c.Silent := by
  have leaves : Condition.leaves resetting.conditions = [
      .withValue .le "amount" (.int 0), .noneOf "account.id" [.int 0],
      (Condition.script " " [.int 3]).joinedBy (some .or), .isNull "",
      .withValue .like "state" .null, .between " " (.int 1) (.int 2)] := by rfl
  rw [leaves]
  simp only [List.forall_mem_cons]
  refine ⟨.inl ⟨_, account, "amount", .comparison rfl rfl, rfl, rfl, rfl⟩,
    .inl ⟨_, account, "id", .list rfl rfl, rfl, rfl, rfl⟩, .inr (.script rfl rfl),
    .inr (.nullCheck rfl rfl ?_), .inr (.absent rfl ?_), .inr (.blankKey rfl rfl), by simp⟩
  · rintro s given
    cases given
    rfl
  · rintro operand given
    cases given
    rfl

end Ledger

/-- An update that opens all accounts. -/
theorem Update.wherePart_eq_empty_iff_resetting :
    ∃ s, (Ledger.resetting.compile Ledger.catalog .mysql).outcome = .ok s ∧
      s.sql = "UPDATE t_account SET account_state = ?" ∧
      (Ledger.resetting.compile Ledger.catalog .mysql).warnings =
        [.updateWithoutWhere "Account" s.sql] := by
  obtain ⟨s, ok⟩ := Outcome.exists_of_isOk
    (x := (Ledger.resetting.compile Ledger.catalog .mysql).outcome) (by decide +kernel)
  obtain ⟨e, found, whole, without, -⟩ := wherePart_eq_empty_iff Ledger.build_draft ok
  obtain rfl : Ledger.account = e := Option.some.inj found
  obtain ⟨text, warnings⟩ := without (whole.mpr Ledger.silent_resetting)
  have assignments : ((Ledger.resetting.compile Ledger.catalog .mysql).outcome.toOption.map
      UpdateStatement.assignments).map (fun gs => Fragment.sql (Fragment.joined ", " gs)) =
      some "account_state = ?" := by decide +kernel
  rw [ok] at assignments
  refine ⟨s, ok, ?_, warnings⟩
  rw [text, show Fragment.sql (Fragment.joined ", " s.assignments) = "account_state = ?" from
    Option.some.inj assignments]
  rfl

end BoundQuery
