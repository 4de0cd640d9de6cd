import BoundQuery.Proofs.JoinChains
import Mathlib.Data.List.Induction

/-!
# The names that a chain of joins declares

In a chain whose references stand behind commas and JOIN, and whose conditions hold neither FROM nor
JOIN, the scan for declarations is in step with the chain: at each reference it expects an entity,
and between references it passes all words. So it finds the names of the references, from left to
right, and nothing else; a name that is declared again stands for the entity of the last reference
that declares it.

## Main definitions

* `Source.Chain.Plain`, chains that the scan follows
* `Source.Chain.declared`, all that a chain declares

## Main results

* `Source.Step.declarations_of_plain` — one step of such a chain
* `Source.Chain.declarations_of_plain` — a whole chain
* `Source.Chain.aliases_of_plain` — the names that its script declares
-/

namespace BoundQuery

namespace Source

open Text

/-- The condition holds neither FROM nor JOIN. -/
def JoinCondition.Plain (c : JoinCondition) : Prop :=
  ∀ t ∈ c.tokens, sameIgnoringCase t "FROM" = false ∧ sameIgnoringCase t "JOIN" = false

/-- A step by comma or JOIN, with a plain condition if it has one. -/
structure Step.Plain (s : Step) : Prop where
  link : s.link.announces
  condition : ∀ c, s.condition = some c → c.Plain

/-- A chain of such steps. -/
def Chain.Plain (chain : Chain) : Prop :=
  ∀ s ∈ chain.steps, s.Plain

/-- All that a chain declares, reference by reference: the entity for itself, then the alias for the
entity. -/
def Chain.declared (chain : Chain) : List (String × String) :=
  chain.references.flatMap Reference.declared

theorem JoinCondition.Plain.quiet {c : JoinCondition} (plain : c.Plain) :
    ∀ t ∈ c.tokens, announcesEntity t = false := by
  intro t member
  obtain ⟨noFrom, noJoin⟩ := plain t member
  have noComma : (t == ",") = false := beq_eq_false_iff_ne.mpr (c.plain t member).2
  rw [announcesEntity, noComma, noFrom, noJoin]
  rfl

namespace Step

variable {s : Step} {steps : List Step} {rest : List String}

theorem Plain.quiet (plain : s.Plain) : ∀ t ∈ s.conditionTokens, announcesEntity t = false := by
  rw [conditionTokens]
  cases given : s.condition with
  | none => simp
  | some c =>
    rw [List.forall_mem_cons]
    exact ⟨c.word.not_announcesEntity (by decide) (by decide) (by decide),
      (plain.condition c given).quiet⟩

/-- One step: whatever was expected before it, its reference is found, and behind it no entity is
expected. -/
theorem declarations_of_plain (plain : s.Plain) (stops : Stops rest) (b : Bool) :
    declarations b (s.tokens ++ rest) = s.reference.declared ++ declarations false rest := by
  rw [tokens, List.append_assoc, Link.declarations_tokens, plain.link, Bool.or_true,
    List.append_assoc, s.reference.declarations_tokens (stops_condition stops),
    declarations_append_of_quiet plain.quiet]

/-- All steps, one after the other. -/
theorem declarations_flatMap (plain : ∀ s ∈ steps, s.Plain) :
    declarations false (steps.flatMap tokens) =
      steps.flatMap fun s => s.reference.declared := by
  induction steps with
  | nil => rw [List.flatMap_nil, List.flatMap_nil, declarations]
  | cons s steps ih =>
    rw [List.forall_mem_cons] at plain
    rw [List.flatMap_cons, declarations_of_plain plain.1 stops_flatMap, ih plain.2,
      List.flatMap_cons]

end Step

namespace Chain

variable {chain : Chain}

/-- The scan finds what the chain declares, in order. -/
theorem declarations_of_plain (plain : chain.Plain) :
    declarations true chain.tokens = chain.declared := by
  rw [declarations_tokens, Step.declarations_flatMap plain, declared, references, List.flatMap_cons,
    List.flatMap_map]

/-- Of the names of a reference each stands for its entity. -/
theorem find?_declared_reference (r : Reference) (name : String) :
    r.declared.reverse.find? (fun e => e.1 == name) =
      if name ∈ r.names then some (name, r.entity) else none := by
  have each : ∀ names : List String, (names.map (·, r.entity)).find? (fun e => e.1 == name) =
      if name ∈ names then some (name, r.entity) else none := by
    intro names
    induction names with
    | nil => rfl
    | cons first others ih =>
      rw [List.map_cons, List.find?_cons]
      by_cases same : first = name
      · simp [same]
      · simp [beq_eq_false_iff_ne.mpr same, Ne.symm same, ih]
  rw [Reference.declared, ← List.map_reverse, each]
  simp only [List.mem_reverse]

/-- The last declaration of a name is that of the last reference with the name. -/
theorem find?_declared (rs : List Reference) (name : String) :
    ((rs.flatMap Reference.declared).reverse.find? fun e => e.1 == name).map Prod.snd =
      (rs.reverse.find? fun r => name ∈ r.names).map Reference.entity := by
  induction rs using List.reverseRecOn with
  | nil => rfl
  | append_singleton rs r ih =>
    rw [List.flatMap_append, List.flatMap_singleton, List.reverse_append, List.find?_append,
      find?_declared_reference, List.reverse_append, List.reverse_singleton, List.singleton_append,
      List.find?_cons]
    by_cases named : name ∈ r.names
    · simp [named]
    · simp [named, ih]

/-- Take a script in which a chain of joins is written, with any blanks between its tokens and with
or without blanks around its commas. Let its references stand behind commas and JOIN, and its
conditions hold neither FROM nor JOIN. Then its names are those that its references declare, put one
after the other: each entity for itself, then its alias for the entity. So a name stands for the
entity of the last reference that declares it, and no other name is declared. -/
theorem aliases_of_plain {script : String} {tight : Bool}
    (spelled : Spells tight chain.tokens script.toList) (plain : chain.Plain) :
    aliases script = Dictionary.ofList chain.declared ∧
      ∀ name, (aliases script).find? name =
        (chain.references.reverse.find? fun r => name ∈ r.names).map Reference.entity := by
  have put : aliases script = Dictionary.ofList chain.declared := by
    rw [aliases, tokens_of_spells spelled, declarations_of_plain plain]
  refine ⟨put, fun name => ?_⟩
  rw [put, Dictionary.find?_ofList, declared, find?_declared]

end Chain

/-- Blanks around all tokens are blanks between them. -/
theorem Spells.tight {ts : List String} {cs : List Char} (spelled : Spells false ts cs) :
    Spells true ts cs := by
  induction spelled with
  | nil blank => exact .nil blank
  | cons blank single _ cut ih =>
    exact .cons blank single ih (cut.imp_right fun tight => absurd tight.1 Bool.false_ne_true)

/-- Accounts with their entries and owners. The owners take the alias of the accounts. -/
def ledgerChain : Chain where
  lead := some ⟨"from", by decide⟩
  first := ⟨"account", by decide +kernel, some ⟨none, "a", by decide +kernel⟩⟩
  steps := [
    { link := .comma
      reference := ⟨"entry", by decide +kernel,
        some ⟨some ⟨"AS", by decide⟩, "e", by decide +kernel⟩⟩
      condition := none },
    { link := .join [⟨"inner", by decide⟩] ⟨"JOIN", by decide⟩
      reference := ⟨"owner", by decide +kernel, some ⟨none, "a", by decide +kernel⟩⟩
      condition := some ⟨⟨"USING", by decide⟩, ["(id)"], by decide +kernel⟩ }]

theorem spells_ledgerChain : Spells true ledgerChain.tokens
    "from account a,entry AS e inner JOIN owner a USING (id)".toList := by
  have behind : Spells true ["entry", "AS", "e", "inner", "JOIN", "owner", "a", "USING", "(id)"]
      "entry AS e inner JOIN owner a USING (id)".toList :=
    (spells_joinWith (by decide +kernel)).tight
  -- the comma touches the tokens on both sides
  have comma : Spells true _ ([] ++ ",".toList ++ _) :=
    .cons rfl (by decide) behind (.inr ⟨rfl, .inl rfl⟩)
  have named : Spells true _ (" ".toList ++ "a".toList ++ _) :=
    .cons rfl (by decide) comma (.inr ⟨rfl, .inr rfl⟩)
  have entity : Spells true _ (" ".toList ++ "account".toList ++ _) :=
    .cons rfl (by decide) named (.inl rfl)
  have lead : Spells true _ ([] ++ "from".toList ++ _) := .cons rfl (by decide) entity (.inl rfl)
  exact lead

/-- The alias of the accounts stands for the owners in the end. -/
theorem Chain.aliases_of_plain_ledger :
    (aliases "from account a,entry AS e inner JOIN owner a USING (id)").find? "a" = some "owner" ∧
      aliases "from account a,entry AS e inner JOIN owner a USING (id)" =
        Dictionary.ofList [("account", "account"), ("a", "account"), ("entry", "entry"),
          ("e", "entry"), ("owner", "owner"), ("a", "owner")] := by
  have plain : ledgerChain.Plain := by
    rw [Plain, ledgerChain, List.forall_mem_cons, List.forall_mem_cons]
    refine ⟨⟨rfl, ?_⟩, ⟨rfl, ?_⟩, by simp⟩
    · rintro c ⟨⟩
    · rintro c ⟨⟩ t member
      rw [List.mem_singleton.mp member]
      decide
  obtain ⟨put, found⟩ := aliases_of_plain spells_ledgerChain plain
  exact ⟨(found "a").trans (by decide +kernel), put⟩

end Source

end BoundQuery
