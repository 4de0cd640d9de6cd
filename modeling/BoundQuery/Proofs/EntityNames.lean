import BoundQuery.Proofs.KeyExpressions
import BoundQuery.Proofs.Registry

/-!
# The names of an entity in reads

A registry finds an entity by every name with its script name. Resolution knows it by two spellings
only: the name as it was declared, and the script name. For these two the registry and resolution
agree. Any other spelling that finds the entity, such as a capital for a name that was declared
without, is left in the statement as it is.

## Main results

* `Catalog.Unambiguous.isSelf_iff` — the spellings by which an entity that was found denotes itself
* `Scope.token_of_entity` — a name of the primary entity as a token of its own
* `Catalog.names_in_reads` — the names that find an entity, in the registry and in reads
-/

namespace BoundQuery

open Text

/-- The two spellings of a name of an entity that resolution knows. -/
def Entity.Knows (e : Entity) (name : String) : Prop :=
  name = e.name ∨ lowerFirst name = name

instance (e : Entity) : DecidablePred e.Knows := fun name =>
  inferInstanceAs (Decidable (name = e.name ∨ lowerFirst name = name))

/-- An entity that a name finds denotes itself by the name in the two known spellings only. -/
theorem Catalog.Unambiguous.isSelf_iff {c : Catalog} {e : Entity} {name : String}
    (one : c.Unambiguous) (found : c.lookup? name = some e) : e.isSelf name ↔ e.Knows name := by
  have lowered := (one.lookup?_eq_some_iff.mp found).2
  rw [Entity.isSelf, Bool.or_eq_true, beq_iff_eq, beq_iff_eq, ← lowered, Entity.Knows,
    eq_comm (a := name) (b := lowerFirst name)]

namespace Scope

variable {s : Scope} {e : Entity} {name : String}

/-- A name that finds the primary entity, as a token of its own. -/
theorem token_of_entity (found : s.catalog.lookup? name = some s.entity) (given : name ≠ "")
    (bare : ∀ c ∈ name.toList, isBare c) : s.token name =
      .ok (if s.entity.isSelf name ∨ s.aliases.find? name = some name then s.entity.table
        else (s.entity.column? name).getD name) := by
  rw [token_of_bare given bare]
  -- a name that the source lists as an entity comes before the primary entity's own names
  by_cases declared : s.aliases.find? name = some name
  · rw [simpleKey_of_named declared found, if_pos (.inr declared)]
  · have unnamed : s.namedTable? name = none := by
      rw [namedTable?, if_neg (by simpa using declared)]
    simp only [simpleKey, unnamed, declared, or_false]

end Scope

namespace Catalog

/-- After any run of calls on an empty registry, take a name that finds an entity. The entity denotes
itself by it exactly when it is the declared name or has its first letter lowered. In a read of the
entity, a token of this name becomes the table in these spellings, or when the source itself lists
the name as an entity; otherwise it is taken for a property. As a qualifier, where the source does
not declare it for something else, it becomes the table in these spellings, and stays otherwise. -/
theorem names_in_reads (calls : List Entity) {e : Entity} {name : String}
    (found : (empty.afterCalls calls).lookup? name = some e) :
    (e.isSelf name ↔ e.Knows name) ∧
    (∀ s : Scope, s.catalog = empty.afterCalls calls → s.entity = e →
      name ≠ "" → (∀ c ∈ name.toList, Scope.isBare c) →
      s.token name = .ok (if e.Knows name ∨ s.aliases.find? name = some name then e.table
        else (e.column? name).getD name)) ∧
    ∀ s : Scope, s.catalog = empty.afterCalls calls →
      (∀ other, s.aliases.find? name = some other → s.catalog.lookup? other = some e) →
      isIdentifier name → ∀ property, isIdentifier property →
      s.key (name ++ "." ++ property) =
          .ok ((if e.Knows name then e.table else name) ++ "." ++
            (e.column? property).getD property) ∧
        s.script (name ++ "." ++ property) = s.key (name ++ "." ++ property) := by
  have self := (unambiguous_run calls).isSelf_iff found
  refine ⟨self, ?_, ?_⟩
  · rintro s inCatalog rfl given bare
    rw [← inCatalog] at found
    rw [Scope.token_of_entity found given bare]
    simp only [self]
  · intro s inCatalog stands ofName property ofProperty
    have qualified : s.qualified name = .ok e := by
      rw [Scope.qualified]
      cases declared : s.aliases.find? name with
      | none => simp only [Option.getD_none, inCatalog, found]
      | some other => simp only [Option.getD_some, stands other declared]
    constructor
    · rw [Scope.key_of_entity qualified ofName ofProperty]
      simp only [self]
    · exact Scope.script_of_lone (Scope.isLone_qualified ofName ofProperty)

/-- An account by its script name, as a token and as a qualifier. -/
theorem names_in_reads_account :
    (empty.afterCalls [Bank.account]).lookup? "account" = some Bank.account ∧
      Bank.account.isSelf "account" ∧
      Scope.token ⟨empty.afterCalls [Bank.account], Bank.account, .empty⟩ "account" =
        .ok "t_account" ∧
      Scope.key ⟨empty.afterCalls [Bank.account], Bank.account, .empty⟩ "account.state" =
        .ok "t_account.account_state" := by
  have found : (empty.afterCalls [Bank.account]).lookup? "account" = some Bank.account := rfl
  have knows : Bank.account.Knows "account" := by decide +kernel
  have identifier : isIdentifier "account" := by decide +kernel
  obtain ⟨self, tokens, qualifiers⟩ := names_in_reads [Bank.account] found
  refine ⟨found, self.mpr knows, ?_, ?_⟩
  · rw [tokens _ rfl rfl (by decide) (Scope.isBare_of_isIdentifier identifier),
      if_pos (.inl knows)]
    rfl
  · obtain ⟨column, -⟩ := qualifiers ⟨empty.afterCalls [Bank.account], Bank.account, .empty⟩ rfl
      (by rintro other ⟨⟩) identifier "state" (by decide +kernel)
    rw [if_pos knows] at column
    exact column

end Catalog

namespace Bank

/-- An account that was declared without a capital. -/
def lowered : Entity := { account with name := "account" }

/-- A read of accounts by their state. -/
def byState : Criteria where
  entity := "Account"
  conditions := [Condition.withValue .eq "Account.state" (.text "open")]

end Bank

/-- With a capital, the name of an account that was declared without one finds the account, and a
read of it compiles, but the name is left in the statement. -/
theorem Catalog.capital_in_read :
    (empty.afterCalls [Bank.lowered]).lookup? "Account" = some Bank.lowered ∧
      Bank.lowered.isSelf "Account" = false ∧
      ((Bank.byState.compile (empty.afterCalls [Bank.lowered]) {}).outcome.map fun r =>
          (r.source, Fragment.sql r.filter)) =
        .ok ("FROM t_account", "WHERE Account.account_state = ?") :=
  ⟨rfl, by decide +kernel, by decide +kernel⟩

end BoundQuery
