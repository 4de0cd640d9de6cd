import BoundQuery.Proofs.Faults
import BoundQuery.Proofs.JoinChains
import BoundQuery.Proofs.ResultLabels

/-!
# Names that a read resolves

A read asks its scope for entities by the qualifiers of the keys and tokens that it holds, and for
nothing else. So where all of these resolve, no entity is missing; and the qualifiers that a chain
of joins declares resolve, unless STRAIGHT_JOIN stands before their references.

## Main definitions

* `Scope.qualifierOf?`, `Scope.qualifiersOf`, the qualifiers of a key and of a script
* `Criteria.qualifiers`, the qualifiers that a read asks for

## Main results

* `Scope.exists_script` — a script whose qualifiers resolve is resolved
* `Criteria.failsWithin_compile` — a read whose qualifiers resolve lacks no entity
* `Criteria.compile_ne_unresolved` — a chain of joins brings the entities that it declares
-/

namespace BoundQuery

open Text Outcome

/-! ### Scripts -/

namespace Scope

/-- The qualifier of a key of the form `qualifier.property`. -/
def qualifierOf? (key : String) : Option String :=
  match cutAt '.' (trim key) with
  | some (qualifier, property) =>
    if isIdentifier qualifier && isIdentifier property then some qualifier else none
  | none => none

/-- The qualifiers of the keys inside the tokens of a script. -/
def qualifiersOf (script : String) : List String :=
  (words script).filterMap fun token =>
    qualifierOf? (String.ofList (tokenParts token.toList).2.1)

variable {s : Scope} {text : String}

/-- A key whose qualifier resolves is resolved. -/
theorem exists_key (known : ∀ a, qualifierOf? text = some a → ∃ e, s.qualified a = .ok e) :
    ∃ sql, s.key text = .ok sql := by
  rw [key]
  split
  · next qualifier property cut =>
    by_cases identifiers : isIdentifier qualifier && isIdentifier property
    · obtain ⟨e, found⟩ := known qualifier (by rw [qualifierOf?, cut]; exact if_pos identifiers)
      rw [if_pos identifiers, found]
      exact ⟨_, rfl⟩
    · rw [if_neg identifiers]
      exact ⟨_, rfl⟩
  · exact ⟨_, rfl⟩

theorem exists_token
    (known : ∀ a, qualifierOf? (String.ofList (tokenParts text.toList).2.1) = some a →
      ∃ e, s.qualified a = .ok e) : ∃ sql, s.token text = .ok sql := by
  rw [token]
  split
  · exact ⟨_, rfl⟩
  · next outer core trailer _ parts =>
    rw [parts] at known
    obtain ⟨sql, resolved⟩ := exists_key known
    rw [resolved]
    exact ⟨_, rfl⟩

/-- A script whose qualifiers resolve is resolved. -/
theorem exists_script (known : ∀ a ∈ qualifiersOf text, ∃ e, s.qualified a = .ok e) :
    ∃ sql, s.script text = .ok sql := by
  have each : ∀ word ∈ words text, ∃ sql, s.token word = .ok sql := fun word member =>
    exists_token fun a isQualifier => known a (List.mem_filterMap.mpr ⟨word, member, isQualifier⟩)
  have all : ∃ tokens, (words text).mapM s.token = .ok tokens := by
    choose! resolve resolved using each
    exact ⟨_, mapM_eq_map resolved⟩
  obtain ⟨tokens, resolved⟩ := all
  rw [script, resolved]
  exact ⟨_, rfl⟩

end Scope

/-! ### Conditions and clauses -/

/-- The scripts of a leaf that are resolved. -/
def Condition.scripts (c : Condition) : List String :=
  match c.predicate.shape, c.operand with
  | .marker, _ => []
  | .script, _ => [c.key]
  | .nullCheck, _ => [Filter.checked c]
  | .single, some (.value v) => c.key :: (Filter.inline? v).toList
  | _, _ => [c.key]

/-- Errors other than a missing entity. -/
def CompileError.LacksNone (error : CompileError) : Prop :=
  error.kind ≠ .unresolvedEntity

theorem CompileError.lacksNone_syntaxFault (fault : SyntaxFault) :
    LacksNone (.syntaxFault fault) := by
  rintro ⟨⟩

open CompileError (LacksNone lacksNone_syntaxFault)

namespace Dialect

variable {d : Dialect}

theorem failsWithin_literal (v : Value) : FailsWithin LacksNone (d.literal v) := by
  cases v with
  | float x =>
    cases x with
    | finite => exact .ok _
    | nan | infinity => exact .error (lacksNone_syntaxFault _)
  | json j => cases j <;> exact .ok _
  | _ => exact .ok _

theorem failsWithin_memberList (vs : List Value) : FailsWithin LacksNone (d.memberList vs) := by
  rw [memberList]
  refine (FailsWithin.mapM fun v _ => ?_).bind fun pieces _ => ?_
  · rw [member]
    split
    · exact (failsWithin_literal v).map
    · exact .ok _
  · split
    · exact .error (lacksNone_syntaxFault _)
    · exact .ok _

end Dialect

namespace Filter

variable {f : Filter} {c : Condition}

theorem failsWithin_rest {operand : Operand} (compares : c.predicate.shape.comparesKey)
    (known : ∀ v e, c.predicate.shape = .single → operand = .value v → inline? v = some e →
      ∃ sql, f.scope.script e = .ok sql) : FailsWithin LacksNone (f.rest c operand) := by
  cases shape : c.predicate.shape with
  | membership =>
    rw [rest_membership shape]
    refine FailsWithin.bind ?_ fun vs _ => (Dialect.failsWithin_memberList vs).bind fun _ _ => .ok _
    cases operand with
    | range min max => exact .error (lacksNone_syntaxFault _)
    | value | list => exact .ok _
  | between =>
    cases operand with
    | range min max => rw [rest_range shape]; exact .ok _
    | value v =>
      rw [rest_of_not_range shape (by simp)]
      exact .error (lacksNone_syntaxFault _)
    | list vs =>
      rw [rest_of_not_range shape (by simp)]
      exact .error (lacksNone_syntaxFault _)
  | single =>
    cases operand with
    | value v =>
      cases inlined : inline? v with
      | none => rw [rest_value shape inlined]; exact .ok _
      | some e =>
        rw [rest_expression shape inlined]
        exact (FailsWithin.of_isOk (known v e shape rfl inlined)).bind fun _ _ => .ok _
    | list vs =>
      rw [rest_of_not_value shape (by simp)]
      exact .error (lacksNone_syntaxFault _)
    | range min max =>
      rw [rest_of_not_value shape (by simp)]
      exact .error (lacksNone_syntaxFault _)
  | marker | script | nullCheck => rw [shape] at compares; cases compares

/-- A leaf whose scripts are resolved lacks no entity. -/
theorem failsWithin_leafBody (known : ∀ script ∈ c.scripts, ∃ sql, f.scope.script script = .ok sql) :
    FailsWithin LacksNone (f.leafBody c) := by
  cases shape : c.predicate.shape with
  | marker => rw [leafBody_marker shape]; exact .ok none
  | script =>
    have key : c.key ∈ c.scripts := by rw [Condition.scripts, shape]; exact List.mem_cons_self
    rw [leafBody_script shape, scriptBody]
    refine (FailsWithin.of_isOk (known _ key)).bind fun sql _ => ?_
    split
    · exact .ok _
    · exact .ok _
  | nullCheck =>
    have expression : checked c ∈ c.scripts := by
      rw [Condition.scripts, shape]
      exact List.mem_cons_self
    rw [leafBody_nullCheck shape, nullCheckBody]
    split
    · exact .ok _
    · exact (FailsWithin.of_isOk (known _ expression)).bind fun _ _ => .ok _
  | membership | between | single =>
    have compares : c.predicate.shape.comparesKey := by rw [shape]; rfl
    rw [leafBody_comparesKey compares, predicateBody]
    cases given : c.operand with
    | none => exact .ok _
    | some operand =>
      have key : c.key ∈ c.scripts := by
        rw [Condition.scripts, shape, given]
        -- the key comes first, whatever the operand adds
        cases operand <;> exact List.mem_cons_self
      dsimp only
      split
      · exact .ok _
      · refine (FailsWithin.of_isOk (known _ key)).bind fun _ _ => ?_
        refine (failsWithin_rest compares fun v e single isValue inlined => ?_).bind fun _ _ => .ok _
        refine known e ?_
        rw [Condition.scripts, single, given, isValue]
        simp [inlined]

end Filter

/-- Conditions on aggregates ask for no entities. -/
theorem Having.failsWithin_clause {d : Dialect} (hs : List Having) :
    FailsWithin LacksNone (clause d hs) := by
  have rest : ∀ (h : Having) (operand : Operand), FailsWithin LacksNone (h.rest d operand) := by
    intro h operand
    unfold Having.rest
    split
    · exact (Dialect.failsWithin_literal _).bind fun _ _ =>
        (Dialect.failsWithin_literal _).bind fun _ _ => .ok _
    · split
      · refine (FailsWithin.mapM fun v _ => Dialect.failsWithin_literal v).bind fun _ _ => ?_
        split
        · exact .error (lacksNone_syntaxFault _)
        · exact .ok _
      · exact .error (lacksNone_syntaxFault _)
    · split
      · exact (Dialect.failsWithin_literal _).bind fun _ _ => .ok _
      · exact .error (lacksNone_syntaxFault _)
    · exact .error (lacksNone_syntaxFault _)
  refine FailsWithin.map ((FailsWithin.mapM fun h _ => ?_).bind fun _ _ => .ok _)
  rw [body]
  split
  · exact .ok _
  · split
    · exact .ok _
    · exact (rest h _).bind fun _ _ => .ok _

/-- The keys of a projection. -/
def Projected.keys (p : Projected) : List String :=
  p.distinct ++ p.reduces.map Reduce.property ++ p.resultKeys

theorem Projection.failsWithin_ofProjected {scope : Scope} {settings : Settings} {counting : Bool}
    {p : Projected} (known : ∀ key ∈ p.keys, ∃ sql, scope.key key = .ok sql) :
    FailsWithin LacksNone (ofProjected scope settings counting p) := by
  have keys : ∀ {ks : List String}, (∀ key ∈ ks, key ∈ p.keys) →
      FailsWithin LacksNone (resolved scope ks) := by
    intro ks among
    exact FailsWithin.mapM fun key member =>
      (FailsWithin.of_isOk (known key (among key member))).bind fun _ _ => .ok _
  have calls : ∀ r ∈ p.reduces,
      FailsWithin LacksNone (aggregated scope settings.separator counting r) := by
    intro r member
    have property : r.property ∈ p.keys :=
      List.mem_append_left _ (List.mem_append_right _ (List.mem_map_of_mem member))
    refine FailsWithin.bind ?_ fun _ _ => ?_
    · rw [Reduce.call, Reduce.column]
      refine FailsWithin.bind ?_ fun _ _ => .ok _
      split
      · exact .ok _
      · exact .of_isOk (known _ property)
    · split
      · exact .error (lacksNone_syntaxFault _)
      · exact .ok _
  rw [ofProjected]
  split
  · exact .error (lacksNone_syntaxFault _)
  · refine (keys fun key member => ?_).bind fun _ _ => ?_
    · exact List.mem_append_left _ (List.mem_append_left _ member)
    · refine (FailsWithin.mapM calls).bind fun _ _ => ?_
      exact (keys fun key member => List.mem_append_right _ member).bind fun _ _ => .ok _

namespace Criteria

/-- The keys of a read. -/
def keys (c : Criteria) : List String :=
  (c.projected.map Projected.keys).getD [] ++
    (c.groupBy.map fun groupBy => (splitAll ',' groupBy).map trim).getD []

/-- The scripts of a read: its source, those of its conditions, and its sort keys. -/
def scripts (c : Criteria) : List String :=
  Source.withoutFrom (c.source.getD "") ::
    (Condition.leaves c.conditions).flatMap Condition.scripts ++ c.sorts.map SortKey.key

/-- The qualifiers that a read asks for. -/
def qualifiers (c : Criteria) : List String :=
  c.keys.filterMap Scope.qualifierOf? ++ c.scripts.flatMap Scope.qualifiersOf

variable {c : Criteria} {catalog : Catalog} {settings : Settings} {e : Entity}

/-- Where its qualifiers resolve, a read with a source of its own lacks no entity. -/
theorem failsWithin_compile (found : catalog.lookup? c.entity = some e)
    (source : (Source.withoutFrom (c.source.getD "")).isEmpty = false)
    (known : ∀ a ∈ c.qualifiers, ∃ f, (c.scope catalog e).qualified a = .ok f) :
    FailsWithin LacksNone (c.compile catalog settings).outcome := by
  have keys : ∀ key ∈ c.keys, ∃ sql, (c.scope catalog e).key key = .ok sql := fun key member =>
    Scope.exists_key fun a isQualifier =>
      known a (List.mem_append_left _ (List.mem_filterMap.mpr ⟨key, member, isQualifier⟩))
  have scripts : ∀ script ∈ c.scripts, ∃ sql, (c.scope catalog e).script script = .ok sql :=
    fun script member => Scope.exists_script fun a isQualifier =>
      known a (List.mem_append_right _ (List.mem_flatMap.mpr ⟨script, member, isQualifier⟩))
  rw [compile, found]
  simp only [Attempt.outcome_bind, Attempt.outcome_lift, Attempt.outcome_pure]
  -- clause by clause, in the order in which a read is compiled
  refine FailsWithin.bind ?_ fun projection _ => FailsWithin.bind ?_ fun _ _ =>
    FailsWithin.bind ?_ fun _ _ => FailsWithin.bind ?_ fun _ _ =>
    (Having.failsWithin_clause _).bind fun _ _ => FailsWithin.bind ?_ fun _ _ => .ok _
  · rw [Criteria.projection]
    split
    · next p given =>
      refine Projection.failsWithin_ofProjected fun key member => keys key ?_
      rw [Criteria.keys, given]
      exact List.mem_append_left _ member
    · exact .ok _
  · rw [fromClause, Attempt.outcome_bind, Attempt.outcome_lift]
    refine (FailsWithin.of_isOk (scripts _ ?_)).bind fun _ _ => ?_
    · rw [sourceScript]
      simp only [source, Bool.false_eq_true, if_false]
      exact List.mem_cons_self
    · -- no dialect fails on a hint
      cases given? c.forceIndex with
      | none => exact .ok _
      | some index => cases settings.dialect <;> exact .ok _
  · refine Filter.failsWithin_compile (fun leaf member => ?_) .whereFirst
    refine Filter.failsWithin_leafBody fun script isScript => scripts script ?_
    -- pruning leaves no condition that was not there
    have isLeaf : leaf ∈ Condition.leaves c.conditions := by
      rw [effectiveConditions] at member
      split at member
      · exact Scope.mem_leaves_pruned member
      · exact member
    refine List.mem_append_left _ (List.mem_cons_of_mem _ ?_)
    exact List.mem_flatMap.mpr ⟨leaf, isLeaf, isScript⟩
  · rw [groupByClause]
    split
    · exact .ok _
    · next groupBy given =>
      split
      · exact .ok _
      · simp only [Attempt.outcome_bind, Attempt.outcome_lift, Attempt.outcome_pure]
        refine (FailsWithin.mapM fun key member => .of_isOk (keys key ?_)).bind fun _ _ => .ok _
        rw [Criteria.keys, given?_eq_some given]
        exact List.mem_append_right _ (List.mem_of_mem_filter member)
  · rw [orderByClause]
    split
    · exact .ok _
    · refine (FailsWithin.mapM fun sort member => ?_).bind fun _ _ => .ok _
      refine (FailsWithin.of_isOk (scripts sort.key ?_)).bind fun _ _ => .ok _
      exact List.mem_append_right _ (List.mem_map_of_mem (List.mem_of_mem_filter member))

end Criteria

/-! ### Chains of joins -/

namespace Source.Chain

variable {chain : Chain} {script : String} {tight : Bool}

theorem aliases_withoutFrom (spelled : Spells tight chain.tokens script.toList) :
    aliases (withoutFrom script) = Dictionary.ofList (declarations true chain.tokens) := by
  rw [aliases, declarations_withoutFrom, tokens_of_spells spelled]

theorem withoutFrom_ne_empty (spelled : Spells tight chain.tokens script.toList) :
    (withoutFrom script).isEmpty = false := by
  rw [Bool.eq_false_iff]
  intro empty
  have declared : (chain.first.entity, chain.first.entity) ∈
      declarations true (Source.tokens (withoutFrom script)) := by
    rw [declarations_withoutFrom, tokens_of_spells spelled]
    exact mem_of_declared List.mem_cons_self List.mem_cons_self
  have none : Source.tokens "" = [] := rfl
  rw [String.isEmpty_iff.mp empty, none, declarations] at declared
  cases declared

end Source.Chain

namespace Criteria

variable {c : Criteria} {catalog : Catalog} {settings : Settings} {script : String} {tight : Bool}
  {chain : Source.Chain}

theorem sourceScript_of_spells (given : c.source = some script)
    (spelled : Source.Spells tight chain.tokens script.toList) (e : Entity) :
    c.sourceScript e = Source.withoutFrom script := by
  rw [sourceScript, given, Option.getD_some]
  simp only [chain.withoutFrom_ne_empty spelled, Bool.false_eq_true, if_false]

/-- The scope of a read whose source is a chain. -/
theorem scope_of_spells (projected : c.projected.isSome) (given : c.source = some script)
    (spelled : Source.Spells tight chain.tokens script.toList) (catalog : Catalog) (e : Entity) :
    c.scope catalog e =
      ⟨catalog, e, Dictionary.ofList (Source.declarations true chain.tokens)⟩ := by
  rw [scope, sourceScript_of_spells given spelled, if_pos projected, chain.aliases_withoutFrom spelled]

/-- A chain of joins brings the entities that it declares. Take a read with a projection whose
source is a chain of references to registered entities. Let each qualifier that the read asks for
be declared by a reference that does not stand behind STRAIGHT_JOIN, or name a registered entity;
and where a condition of the chain declares it again, as by a FROM of its own, let it do so for a
registered entity. Then the read lacks no entity but, if it is not registered, its own. -/
theorem compile_ne_unresolved (projected : c.projected.isSome) (given : c.source = some script)
    (spelled : Source.Spells tight chain.tokens script.toList)
    (registered : ∀ r ∈ chain.references, (catalog.lookup? r.entity).isSome)
    (declared : ∀ a ∈ c.qualifiers,
      (∃ r ∈ chain.announced, a ∈ r.names) ∨ (catalog.lookup? a).isSome)
    (undisturbed : ∀ condition ∈ chain.conditions, ∀ d ∈ condition.declared,
      d.1 ∈ c.qualifiers → (catalog.lookup? d.2).isSome)
    {name : String}
    (failed : (c.compile catalog settings).outcome = .error (.unresolvedEntity name)) :
    catalog.lookup? c.entity = none ∧ name = c.entity := by
  cases found : catalog.lookup? c.entity with
  | none =>
    rw [compile, found] at failed
    cases failed
    exact ⟨rfl, rfl⟩
  | some e =>
    have known : ∀ a ∈ c.qualifiers, ∃ f, (c.scope catalog e).qualified a = .ok f := by
      intro a member
      rw [scope_of_spells projected given spelled, Scope.qualified]
      dsimp only
      generalize stands : (Dictionary.ofList (Source.declarations true chain.tokens)).find? a = bound
      -- a declared name stands for a registered entity, and any other name is one itself
      have isRegistered : (catalog.lookup? (bound.getD a)).isSome := by
        cases bound with
        | some entity =>
          rcases chain.declared_of_mem (Dictionary.mem_of_mem_ofList (Dictionary.mem_of_find? stands))
            with ⟨r, isReference, ofReference⟩ | ⟨condition, isCondition, ofCondition⟩
          · obtain ⟨name, -, same⟩ := List.mem_map.mp ofReference
            cases same
            exact registered r isReference
          · exact undisturbed condition isCondition (a, entity) ofCondition member
        | none =>
          refine (declared a member).resolve_left ?_
          rintro ⟨r, announced, ofReference⟩
          exact Dictionary.find?_ofList_ne_none
            (chain.mem_of_declared announced (List.mem_map_of_mem ofReference)) stands
      obtain ⟨f, isEntity⟩ := Option.isSome_iff_exists.mp isRegistered
      exact ⟨f, by rw [isEntity]⟩
    have source : (Source.withoutFrom (c.source.getD "")).isEmpty = false := by
      rw [given]
      exact chain.withoutFrom_ne_empty spelled
    exact absurd rfl (failsWithin_compile found source known _ failed)

end Criteria

namespace Depot

def order : Entity where
  name := "Order"
  table := "t_order"
  properties := .ofList [("id", ⟨"id", .integer, false, false⟩)]

def orderItem : Entity where
  name := "OrderItem"
  table := "t_order_item"
  properties := .ofList [
    ("id", ⟨"id", .integer, false, false⟩),
    ("orderId", ⟨"order_id", .integer, false, false⟩)]

def catalog : Catalog := ⟨[order, orderItem]⟩

/-- Orders with their items: how the orders are named, and how the items are linked to them. -/
def joined (orders : Source.Naming) (link : Source.Link) (matching : List String)
    (plain : ∀ t ∈ matching, Source.isToken t ∧ t ≠ ",") : Source.Chain where
  lead := some ⟨"FROM", by decide⟩
  first := ⟨"order", by decide +kernel, some orders⟩
  steps := [{
    link
    reference := ⟨"orderItem", by decide +kernel, some ⟨some ⟨"as", by decide⟩, "i", by decide +kernel⟩⟩
    condition := some ⟨⟨"ON", by decide⟩, matching, plain⟩ }]

def chain (link : Source.Link) : Source.Chain :=
  joined ⟨none, "o", by decide +kernel⟩ link ["i.orderId", "=", "o.id"] (by decide +kernel)

def leftJoin : Source.Link := .join [⟨"LEFT", by decide⟩] ⟨"join", by decide⟩

def straightJoin : Source.Link := .straight ⟨"STRAIGHT_JOIN", by decide⟩

/-- A read of the items of orders. -/
def items (source : String) : Criteria where
  entity := "Order"
  source := some source
  sorts := [⟨"o.id", none⟩]
  projected := some { resultKeys := ["i.id"] }

end Depot

/-- Items behind LEFT JOIN, with each name used in a key, a condition and a sort. -/
theorem Criteria.compile_ne_unresolved_leftJoin :
    (Depot.items "FROM order o LEFT join orderItem as i ON i.orderId = o.id").qualifiers =
        ["i", "i", "o", "o"] ∧
      ∀ name, ((Depot.items "FROM order o LEFT join orderItem as i ON i.orderId = o.id").compile
        Depot.catalog {}).outcome ≠ .error (.unresolvedEntity name) := by
  have used : (Depot.items "FROM order o LEFT join orderItem as i ON i.orderId = o.id").qualifiers =
      ["i", "i", "o", "o"] := by decide +kernel
  have spelled : Source.Spells false (Depot.chain Depot.leftJoin).tokens
      "FROM order o LEFT join orderItem as i ON i.orderId = o.id".toList :=
    Source.spells_joinWith (by decide +kernel)
  refine ⟨used, fun name failed => ?_⟩
  obtain ⟨unknown, -⟩ := compile_ne_unresolved rfl rfl spelled (by decide +kernel)
    (by rw [used]; decide +kernel) (by rw [used]; decide +kernel) failed
  exact absurd unknown (by decide +kernel)

/-- Behind STRAIGHT_JOIN the alias of the items is not found, although the chain declares it, all its
entities are registered, and no other name is used. -/
theorem Criteria.compile_straightJoin :
    Source.Spells false (Depot.chain Depot.straightJoin).tokens
        "FROM order o STRAIGHT_JOIN orderItem as i ON i.orderId = o.id".toList ∧
      (∀ r ∈ (Depot.chain Depot.straightJoin).references,
        (Depot.catalog.lookup? r.entity).isSome) ∧
      (∀ a ∈ (Depot.items "FROM order o STRAIGHT_JOIN orderItem as i ON i.orderId = o.id").qualifiers,
        ∃ r ∈ (Depot.chain Depot.straightJoin).references, a ∈ r.names) ∧
      ((Depot.items "FROM order o STRAIGHT_JOIN orderItem as i ON i.orderId = o.id").compile
        Depot.catalog {}).outcome = .error (.unresolvedEntity "i") := by
  have used : (Depot.items
      "FROM order o STRAIGHT_JOIN orderItem as i ON i.orderId = o.id").qualifiers =
        ["i", "i", "o", "o"] := by decide +kernel
  refine ⟨Source.spells_joinWith (by decide +kernel), by decide +kernel,
    by rw [used]; decide +kernel, ?_⟩
  rw [← fault?_eq_some]
  decide +kernel

end BoundQuery
