import BoundQuery.Proofs.Lexemes
import BoundQuery.Proofs.UnresolvedNames

/-!
# The FROM clause of a chain

The FROM clause of a read is its source, resolved token by token, while the qualifiers of columns
come from the names that the source declares. Where the primary entity has no column under a word of
the chain, the two agree: tables take the place of entities, aliases and keywords stay, and each
alias qualifies the columns of its own entity.

## Main definitions

* `Entity.Keeps`, the words that the primary entity does not replace
* `Source.Chain.fixed`, the words of a chain that are to stay
* `Source.Chain.rendered`, a chain with tables for entities

## Main results

* `Scope.token_of_bare` — a token without punctuation is one simple key
* `Source.Chain.find?_entity`, `Source.Chain.find?_alias` — what the names of a chain stand for
* `Source.Chain.map_resolved` — a chain resolves to the chain with tables
* `Criteria.source_of_chain` — the FROM clause and the columns of a chain
-/

namespace BoundQuery

open Text Outcome

/-! ### Tokens without punctuation -/

namespace Scope

/-- A character that is neither blank nor punctuation around or inside a key. -/
def isBare (c : Char) : Bool :=
  !isBlank c && c != '(' && !isTrailer c && c != '.'

/-- A token as it is resolved; one that does not resolve stays. -/
def resolved (s : Scope) (token : String) : String :=
  (s.token token).toOption.getD token

variable {s : Scope} {w : String}

theorem isBare_iff {c : Char} :
    isBare c ↔ isBlank c = false ∧ c ≠ '(' ∧ isTrailer c = false ∧ c ≠ '.' := by
  simp [isBare, and_assoc]

theorem tokenParts_of_bare {cs : List Char} (bare : ∀ c ∈ cs, isBare c) :
    tokenParts cs = ([], cs, []) := by
  -- tokens are cut from their end: up to the last bracket, then without trailers
  have inner : ∀ c ∈ cs.reverse, (c != '(') = true := fun c member => by
    simpa using (isBare_iff.mp (bare c (List.mem_reverse.mp member))).2.1
  have trailer : ∀ c ∈ cs.reverse, isTrailer c = false := fun c member =>
    (isBare_iff.mp (bare c (List.mem_reverse.mp member))).2.2.1
  have whole : cs.reverse.takeWhile (fun c => c != '(') = cs.reverse :=
    List.takeWhile_eq_self_iff.mpr inner
  have rest : cs.reverse.dropWhile (fun c => c != '(') = [] := List.dropWhile_eq_nil_iff.mpr inner
  have kept : cs.reverse.dropWhile isTrailer = cs.reverse := by
    cases chars : cs.reverse with
    | nil => rfl
    | cons c ds =>
      refine List.dropWhile_cons_of_neg ?_
      rw [trailer c (by rw [chars]; exact List.mem_cons_self)]
      exact Bool.false_ne_true
  have none : cs.reverse.takeWhile isTrailer = [] := by
    have parts := List.takeWhile_append_dropWhile (p := isTrailer) (l := cs.reverse)
    rw [kept] at parts
    exact List.append_left_eq_self.mp parts
  simp only [tokenParts, whole, rest, List.reverse_reverse, kept, none, List.reverse_nil]

theorem cutCharsAt_of_not_mem {c : Char} {cs ds : List Char} (other : c ∉ cs) :
    cutCharsAt c (cs ++ c :: ds) = some (cs, ds) := by
  induction cs with
  | nil => exact if_pos rfl
  | cons d cs ih =>
    rw [List.mem_cons, not_or] at other
    rw [List.cons_append, cutCharsAt, if_neg (Ne.symm other.1), ih other.2]
    rfl

theorem cutCharsAt_eq_none {c : Char} {cs : List Char} (other : c ∉ cs) :
    cutCharsAt c cs = none := by
  induction cs with
  | nil => rfl
  | cons d cs ih =>
    rw [List.mem_cons, not_or] at other
    rw [cutCharsAt, if_neg (Ne.symm other.1), ih other.2]
    rfl

/-- A token without punctuation is one key without a qualifier. -/
theorem token_of_bare (given : w ≠ "") (bare : ∀ c ∈ w.toList, isBare c) :
    s.token w = .ok (s.simpleKey w) := by
  have solid : Solid w := fun c member => (isBare_iff.mp (bare c member)).1
  have uncut : cutAt '.' w = none := by
    rw [cutAt, cutCharsAt_eq_none fun member => (isBare_iff.mp (bare _ member)).2.2.2 rfl]
    rfl
  have resolved : s.key w = .ok (s.simpleKey w) := by
    rw [key]
    simp only [trim_of_solid solid, uncut]
  obtain ⟨c, cs, chars⟩ := List.exists_cons_of_ne_nil (show w.toList ≠ [] by simpa using given)
  have whole : String.ofList (c :: cs) = w := by rw [← chars, String.ofList_toList]
  rw [token, tokenParts_of_bare bare, chars]
  simp only [whole, resolved]
  simp [bind, Except.bind, pure, Except.pure]

theorem isBare_of_continuesIdentifier {c : Char} (member : continuesIdentifier c) : isBare c := by
  have ink : isInk c := isInk_of_class (p := continuesIdentifier) (by decide +kernel)
    (by decide +kernel) member
  rw [isInk, Bool.and_eq_true, Bool.not_eq_true', Bool.not_eq_true', isSign] at ink
  have other : ∀ d, continuesIdentifier d = false → c ≠ d := by
    rintro d none rfl
    rw [none] at member
    cases member
  refine isBare_iff.mpr ⟨ink.1, other _ (by decide +kernel), ?_, other _ (by decide +kernel)⟩
  simp [isTrailer, other ',' (by decide +kernel), other ')' (by decide +kernel),
    other ';' (by decide +kernel)]

theorem isBare_of_isIdentifier (identifier : isIdentifier w) : ∀ c ∈ w.toList, isBare c :=
  fun c member => isBare_of_continuesIdentifier (continuesIdentifier_of_mem identifier c member)

/-- Upper case leaves blanks and punctuation alone. -/
theorem toUpper_of_not_bare {c : Char} (marked : isBare c = false) : c.toUpper = c := by
  have notLower : ¬ (97 ≤ c.toNat ∧ c.toNat ≤ 122) := by
    intro lower
    rw [Bool.eq_false_iff] at marked
    refine marked (isBare_iff.mpr ⟨?_, ?_, ?_, ?_⟩)
    · rw [Bool.eq_false_iff]
      intro blank
      simp only [isBlank, Bool.or_eq_true, Bool.and_eq_true, decide_eq_true_eq, beq_iff_eq] at blank
      omega
    · rintro rfl
      exact absurd lower (by decide)
    · rw [Bool.eq_false_iff]
      intro trailer
      simp only [isTrailer, Bool.or_eq_true, beq_iff_eq] at trailer
      rcases trailer with (rfl | rfl) | rfl
      · exact absurd lower (by decide)
      · exact absurd lower (by decide)
      · exact absurd lower (by decide)
    · rintro rfl
      exact absurd lower (by decide)
  exact dif_neg notLower

end Scope

/-- The words that the entity replaces neither by its table nor by a column. -/
def Entity.Keeps (e : Entity) (word : String) : Prop :=
  e.isSelf word = false ∧ (e.column? word).getD word = word

instance (e : Entity) : DecidablePred e.Keeps := fun word =>
  inferInstanceAs (Decidable (e.isSelf word = false ∧ (e.column? word).getD word = word))

/-- The table of an entity in table position. -/
def Catalog.tableOf (catalog : Catalog) (name : String) : String :=
  ((catalog.lookup? name).map Entity.table).getD name

namespace Source

open Scope (isBare isBare_of_isIdentifier toUpper_of_not_bare)

/-! ### Chains with tables -/

/-- The words of a reference behind its entity. -/
def Reference.fixed (r : Reference) : List String :=
  (r.naming.map Naming.tokens).getD []

/-- The words between two references. -/
def Link.fixed : Link → List String
  | .comma => []
  | .join modifiers word => modifiers.map Word.text ++ [word.text]
  | .straight word => [word.text]

/-- A reference to a table. -/
def Reference.rendered (table : String → String) (r : Reference) : List String :=
  table r.entity :: r.fixed

namespace Step

/-- The words of a step but its entity and what its condition says. -/
def fixed (s : Step) : List String :=
  s.link.fixed ++ (s.reference.fixed ++ (s.condition.map fun c => c.word.text).toList)

/-- A step with a table in the place of its entity and its condition resolved. -/
def rendered (table resolve : String → String) (s : Step) : List String :=
  s.link.tokens ++ (s.reference.rendered table ++
    match s.condition with
    | some c => c.word.text :: c.tokens.map resolve
    | none => [])

end Step

namespace Chain

/-- The aliases of a chain. -/
def aliases (chain : Chain) : List String :=
  chain.references.filterMap fun r => r.naming.map Naming.name

/-- The words of a chain but its entities and what its conditions say. -/
def fixed (chain : Chain) : List String :=
  chain.first.fixed ++ chain.steps.flatMap Step.fixed

/-- A chain with tables in the place of its entities and its conditions resolved. -/
def rendered (table resolve : String → String) (chain : Chain) : List String :=
  chain.first.rendered table ++ chain.steps.flatMap (Step.rendered table resolve)

end Chain

variable {f table : String → String}

theorem map_kept {ws : List String} (kept : ∀ w ∈ ws, f w = w) : ws.map f = ws := by
  rw [List.map_congr_left (g := id) kept, List.map_id]

theorem Link.map_tokens {link : Link} (comma : f "," = ",") (kept : ∀ w ∈ link.fixed, f w = w) :
    link.tokens.map f = link.tokens := by
  cases link with
  | comma => rw [tokens, List.map_cons, comma, List.map_nil]
  | join modifiers word => exact map_kept kept
  | straight word => exact map_kept kept

theorem Reference.map_tokens {r : Reference} (entity : f r.entity = table r.entity)
    (kept : ∀ w ∈ r.fixed, f w = w) : r.tokens.map f = r.rendered table := by
  have rest : r.fixed.map f = r.fixed := map_kept kept
  rw [tokens, rendered, List.map_cons, entity]
  exact congrArg _ rest

theorem Step.map_tokens {s : Step} (comma : f "," = ",")
    (entity : f s.reference.entity = table s.reference.entity) (kept : ∀ w ∈ s.fixed, f w = w) :
    s.tokens.map f = s.rendered table f := by
  rw [fixed, List.forall_mem_append, List.forall_mem_append] at kept
  rw [tokens, rendered, List.map_append, List.map_append, Link.map_tokens comma kept.1,
    Reference.map_tokens entity kept.2.1, conditionTokens]
  cases given : s.condition with
  | none => rfl
  | some c =>
    rw [given] at kept
    rw [List.map_cons, kept.2.2 c.word.text (List.mem_singleton.mpr rfl)]

/-- Replacing the tokens of a chain one by one gives the chain with tables, if entities become their
tables and the fixed words stay. -/
theorem Chain.map_body {chain : Chain} (comma : f "," = ",")
    (entities : ∀ r ∈ chain.references, f r.entity = table r.entity)
    (kept : ∀ w ∈ chain.fixed, f w = w) : chain.body.map f = chain.rendered table f := by
  rw [fixed, List.forall_mem_append] at kept
  rw [references, List.forall_mem_cons] at entities
  rw [body, rendered, List.map_append, Reference.map_tokens entities.1 kept.1, List.map_flatMap]
  refine congrArg _ (List.flatMap_congr fun s member => ?_)
  exact Step.map_tokens comma (entities.2 _ (List.mem_map_of_mem member)) fun w isFixed =>
    kept.2 w (List.mem_flatMap.mpr ⟨s, member, isFixed⟩)

/-! ### Words that stay -/

/-- A keyword holds no punctuation, whatever its case. -/
theorem bare_of_isKeyword {w : String} (keyword : isKeyword w) :
    w ≠ "" ∧ ∀ c ∈ w.toList, isBare c := by
  obtain ⟨k, member, same⟩ := List.any_eq_true.mp keyword
  rw [sameIgnoringCase, beq_iff_eq] at same
  have plain : ∀ k ∈ keywords, asciiUpper k ≠ [] ∧ (asciiUpper k).all isBare := by decide
  obtain ⟨given, bare⟩ := plain k member
  constructor
  · rintro rfl
    exact given same
  · intro c inWord
    -- punctuation is its own upper case, so it would stand in the keyword too
    by_contra marked
    rw [Bool.not_eq_true] at marked
    have upper : c.toUpper ∈ asciiUpper k := same ▸ List.mem_map_of_mem inWord
    rw [toUpper_of_not_bare marked] at upper
    rw [List.all_eq_true.mp bare c upper] at marked
    cases marked

theorem bare_of_isName {w : String} (named : isName w) : w ≠ "" ∧ ∀ c ∈ w.toList, isBare c := by
  constructor
  · rintro rfl
    cases named
  · exact isBare_of_isIdentifier (isIdentifier_of_isName named)

theorem Link.isKeyword_of_mem_fixed {link : Link} {w : String} (member : w ∈ link.fixed) :
    isKeyword w := by
  cases link with
  | comma => cases member
  | join modifiers word =>
    rcases List.mem_append.mp member with ofModifier | isJoin
    · obtain ⟨m, -, rfl⟩ := List.mem_map.mp ofModifier
      exact m.isKeyword (by decide)
    · rw [List.mem_singleton.mp isJoin]
      exact word.isKeyword (by decide)
  | straight word =>
    rw [List.mem_singleton.mp member]
    exact word.isKeyword (by decide)

theorem Reference.mem_fixed_cases {r : Reference} {w : String} (member : w ∈ r.fixed) :
    isKeyword w ∨ ∃ n, r.naming = some n ∧ n.name = w := by
  rw [fixed] at member
  cases given : r.naming with
  | none => rw [given] at member; cases member
  | some n =>
    rw [given, Option.map_some, Option.getD_some, Naming.tokens] at member
    rcases List.mem_append.mp member with isAs | isAlias
    · obtain ⟨word, -, rfl⟩ := List.mem_map.mp (Option.toList_map ▸ isAs)
      exact .inl (word.isKeyword (by decide))
    · exact .inr ⟨n, rfl, (List.mem_singleton.mp isAlias).symm⟩

namespace Chain

variable {chain : Chain} {w : String}

theorem mem_aliases : w ∈ chain.aliases ↔
    ∃ r ∈ chain.references, ∃ n, r.naming = some n ∧ n.name = w := by
  simp only [aliases, List.mem_filterMap, Option.map_eq_some_iff]

/-- A fixed word is an alias or a keyword. -/
theorem mem_fixed_cases (member : w ∈ chain.fixed) : isKeyword w ∨ w ∈ chain.aliases := by
  have ofReference : ∀ r ∈ chain.references, w ∈ r.fixed → isKeyword w ∨ w ∈ chain.aliases :=
    fun r isReference isFixed => (Reference.mem_fixed_cases isFixed).imp_right fun named =>
      mem_aliases.mpr ⟨r, isReference, named⟩
  rcases List.mem_append.mp member with isFixed | member
  · exact ofReference chain.first List.mem_cons_self isFixed
  · obtain ⟨s, isStep, isFixed⟩ := List.mem_flatMap.mp member
    rcases List.mem_append.mp isFixed with ofLink | isFixed
    · exact .inl (Link.isKeyword_of_mem_fixed ofLink)
    · rcases List.mem_append.mp isFixed with isFixed | ofCondition
      · exact ofReference s.reference (List.mem_cons_of_mem _ (List.mem_map_of_mem isStep)) isFixed
      · obtain ⟨c, -, rfl⟩ := List.mem_map.mp (Option.toList_map ▸ ofCondition)
        exact .inl (c.word.isKeyword (by decide))

theorem bare_of_mem_fixed (member : w ∈ chain.fixed) : w ≠ "" ∧ ∀ c ∈ w.toList, isBare c := by
  rcases mem_fixed_cases member with keyword | isAlias
  · exact bare_of_isKeyword keyword
  · obtain ⟨r, -, n, -, rfl⟩ := mem_aliases.mp isAlias
    exact bare_of_isName n.named

/-! ### What the names stand for -/

/-- No two aliases are the same, and none is a name of an entity of the chain. -/
structure Distinct (catalog : Catalog) (chain : Chain) : Prop where
  aliases : chain.aliases.Nodup
  entities : ∀ a ∈ chain.aliases, ∀ r ∈ chain.references,
    a ≠ r.entity ∧ ∀ e, catalog.lookup? r.entity = some e → e.isSelf a = false

instance (catalog : Catalog) : DecidablePred (Distinct catalog) := fun chain =>
  decidable_of_iff
    (chain.aliases.Nodup ∧ ∀ a ∈ chain.aliases, ∀ r ∈ chain.references,
      a ≠ r.entity ∧ ∀ e ∈ catalog.lookup? r.entity, e.isSelf a = false)
    ⟨fun h => ⟨h.1, h.2⟩, fun h => ⟨h.aliases, h.entities⟩⟩

/-- No condition declares a name of the chain again, as by a FROM of its own. -/
def Settled (chain : Chain) : Prop :=
  ∀ c ∈ chain.conditions, ∀ d ∈ c.declared, ∀ r ∈ chain.references, d.1 ∉ r.names

instance : DecidablePred Settled := fun chain =>
  inferInstanceAs (Decidable (∀ c ∈ chain.conditions, ∀ d ∈ c.declared, ∀ r ∈ chain.references,
    d.1 ∉ r.names))

theorem eq_of_nodup_filterMap {α β : Type} {g : α → Option β} {xs : List α}
    (nodup : (xs.filterMap g).Nodup) {x y : α} (hx : x ∈ xs) (hy : y ∈ xs) {b : β}
    (ofX : g x = some b) (ofY : g y = some b) : x = y := by
  induction xs with
  | nil => cases hx
  | cons z zs ih =>
    -- the image of the first does not come again
    have later : ∀ {u}, u ∈ zs → g u = some b → g z ≠ some b := by
      intro u member image first
      rw [List.filterMap_cons_some first, List.nodup_cons] at nodup
      exact nodup.1 (List.mem_filterMap.mpr ⟨u, member, image⟩)
    have rest : (zs.filterMap g).Nodup :=
      nodup.sublist ((List.sublist_cons_self z zs).filterMap g)
    rcases List.mem_cons.mp hx with sameX | inX
    · rcases List.mem_cons.mp hy with sameY | inY
      · rw [sameX, sameY]
      · exact absurd (sameX ▸ ofX) (later inY ofY)
    · rcases List.mem_cons.mp hy with sameY | inY
      · exact absurd (sameY ▸ ofY) (later inX ofX)
      · exact ih rest inX inY

variable {catalog : Catalog} {r : Reference} {n : Naming}

theorem mem_announced (linked : ∀ s ∈ chain.steps, s.link.announces) (member : r ∈ chain.references) :
    r ∈ chain.announced := by
  rw [announced, List.filter_eq_self.mpr linked]
  exact member

/-- A name that only references to one entity declare stands for that entity. -/
theorem find?_of_unique (settled : chain.Settled)
    (linked : ∀ s ∈ chain.steps, s.link.announces) (member : r ∈ chain.references)
    (named : w ∈ r.names) (unique : ∀ u ∈ chain.references, w ∈ u.names → u.entity = r.entity) :
    (Dictionary.ofList (declarations true chain.tokens)).find? w = some r.entity := by
  refine Dictionary.find?_insertAll_of_mem (d := Dictionary.empty)
    (mem_of_declared (mem_announced linked member) (List.mem_map_of_mem named)) ?_
  -- a name may be declared again, but only for the same entity
  rintro d isDeclared rfl
  rcases declared_of_mem isDeclared with ⟨u, isReference, ofReference⟩ | ⟨c, isCondition, ofCondition⟩
  · obtain ⟨name, ofNames, rfl⟩ := List.mem_map.mp ofReference
    exact unique u isReference ofNames
  · exact absurd named (settled c isCondition d ofCondition r member)

theorem mem_names_cases (member : w ∈ r.names) :
    w = r.entity ∨ ∃ n, r.naming = some n ∧ n.name = w := by
  refine (List.mem_cons.mp member).imp_right fun isAlias => ?_
  exact Option.map_eq_some_iff.mp (Option.mem_toList.mp isAlias)

/-- An entity of the chain stands for itself. -/
theorem find?_entity (distinct : chain.Distinct catalog) (settled : chain.Settled)
    (linked : ∀ s ∈ chain.steps, s.link.announces) (member : r ∈ chain.references) :
    (Dictionary.ofList (declarations true chain.tokens)).find? r.entity = some r.entity := by
  refine find?_of_unique settled linked member List.mem_cons_self fun u isReference named => ?_
  rcases mem_names_cases named with same | ⟨n, given, same⟩
  · exact same.symm
  · have isAlias : n.name ∈ chain.aliases := mem_aliases.mpr ⟨u, isReference, n, given, rfl⟩
    exact absurd same (distinct.entities _ isAlias r member).1

/-- An alias stands for the entity that it follows. -/
theorem find?_alias (distinct : chain.Distinct catalog) (settled : chain.Settled)
    (linked : ∀ s ∈ chain.steps, s.link.announces) (member : r ∈ chain.references)
    (given : r.naming = some n) :
    (Dictionary.ofList (declarations true chain.tokens)).find? n.name = some r.entity := by
  have isAlias : n.name ∈ chain.aliases := mem_aliases.mpr ⟨r, member, n, given, rfl⟩
  refine find?_of_unique settled linked member ?_ fun u isReference named => ?_
  · rw [Reference.names, given]
    exact List.mem_cons_of_mem _ (List.mem_singleton.mpr rfl)
  · rcases mem_names_cases named with same | ⟨m, ofU, same⟩
    · exact absurd same (distinct.entities _ isAlias u isReference).1
    · have one : u = r := eq_of_nodup_filterMap distinct.aliases isReference member
        (by rw [ofU, Option.map_some, same]) (by rw [given, Option.map_some])
      rw [one]

/-- A keyword is not declared. -/
theorem find?_keyword (keyword : isKeyword w) :
    (Dictionary.ofList (declarations true chain.tokens)).find? w = none := by
  by_contra found
  obtain ⟨entity, stands⟩ := Option.ne_none_iff_exists'.mp found
  have named := (isName_of_mem_declarations
    (Dictionary.mem_of_mem_ofList (Dictionary.mem_of_find? stands))).1
  rw [not_isKeyword_of_isName named] at keyword
  cases keyword

/-- The words of a source without its FROM are those of the chain. -/
theorem words_withoutFrom {script : String} (spelled : Spells false chain.tokens script.toList) :
    words (withoutFrom script) = chain.body := by
  rw [Source.words_withoutFrom, words_of_spells spelled, tokens]
  cases chain.lead with
  | some w =>
    have isFrom : sameIgnoringCase w.text "FROM" := w.sameIgnoringCase_eq (by decide)
    simp only [Option.map_some, Option.toList_some, List.singleton_append, isFrom, if_true]
  | none =>
    -- the first word is an entity, not FROM
    have isEntity : sameIgnoringCase chain.first.entity "FROM" = false :=
      not_sameIgnoringCase_of_isName chain.first.named (by decide)
    simp only [Option.map_none, Option.toList_none, List.nil_append, body, Reference.tokens,
      List.cons_append, isEntity, Bool.false_eq_true, if_false]

end Chain

end Source

/-! ### Resolution in the scope of a chain -/

namespace Scope

variable {s : Scope} {w : String} {e : Entity}

theorem simpleKey_of_named (stands : s.aliases.find? w = some w)
    (found : s.catalog.lookup? w = some e) : s.simpleKey w = e.table := by
  rw [simpleKey, namedTable?, stands, if_pos (beq_self_eq_true _), found]
  rfl

theorem simpleKey_of_keeps (other : s.aliases.find? w ≠ some w) (keeps : s.entity.Keeps w) :
    s.simpleKey w = w := by
  rw [simpleKey, namedTable?, if_neg (by simpa using other)]
  simp only [keeps.1, Bool.false_eq_true, if_false, keeps.2]

theorem solid_dotted {qualifier property : String} (bare : ∀ c ∈ qualifier.toList, isBare c)
    (ofProperty : isIdentifier property) : Solid (qualifier ++ "." ++ property) := by
  intro c member
  simp only [String.toList_append, List.mem_append] at member
  rcases member with (member | point) | member
  · exact (isBare_iff.mp (bare c member)).1
  · rw [List.mem_singleton.mp point]
    rfl
  · exact (isBare_iff.mp (isBare_of_isIdentifier ofProperty c member)).1

theorem solid_qualified {qualifier property : String} (ofQualifier : isIdentifier qualifier)
    (ofProperty : isIdentifier property) : Solid (qualifier ++ "." ++ property) :=
  solid_dotted (isBare_of_isIdentifier ofQualifier) ofProperty

/-- A qualified key is the column of the entity that its qualifier stands for. -/
theorem key_of_identifiers {qualifier property : String} (ofQualifier : isIdentifier qualifier)
    (ofProperty : isIdentifier property) : s.key (qualifier ++ "." ++ property) =
      (s.qualified qualifier).map fun e =>
        e.qualifier qualifier ++ "." ++ (e.column? property).getD property := by
  have bare := isBare_of_isIdentifier ofQualifier
  have cut : cutAt '.' (qualifier ++ "." ++ property) = some (qualifier, property) := by
    have chars : (qualifier ++ "." ++ property).toList =
        qualifier.toList ++ '.' :: property.toList := by
      simp
    rw [cutAt, chars, cutCharsAt_of_not_mem fun member =>
      (isBare_iff.mp (bare _ member)).2.2.2 rfl]
    simp
  rw [key, trim_of_solid (solid_qualified ofQualifier ofProperty)]
  simp only [cut, ofQualifier, ofProperty, Bool.and_self, if_true]
  cases s.qualified qualifier with
  | error error => rfl
  | ok e => rfl

/-- A name that stands for an entity, as a qualifier. -/
theorem key_of_entity {qualifier property : String} (found : s.qualified qualifier = .ok e)
    (ofQualifier : isIdentifier qualifier) (ofProperty : isIdentifier property) :
    s.key (qualifier ++ "." ++ property) =
      .ok ((if e.isSelf qualifier then e.table else qualifier) ++ "." ++
        (e.column? property).getD property) := by
  have given : qualifier.isEmpty = false := by
    rw [Bool.eq_false_iff]
    intro empty
    rw [String.isEmpty_iff.mp empty] at ofQualifier
    cases ofQualifier
  rw [key_of_identifiers ofQualifier ofProperty, found, Except.map, Entity.qualifier, given,
    Bool.false_or]

/-- The column of a key whose qualifier stands for an entity of another name. -/
theorem key_qualified {qualifier property name : String} (ofQualifier : isIdentifier qualifier)
    (ofProperty : isIdentifier property) (stands : s.aliases.find? qualifier = some name)
    (found : s.catalog.lookup? name = some e) (other : e.isSelf qualifier = false) :
    s.key (qualifier ++ "." ++ property) =
      .ok (qualifier ++ "." ++ (e.column? property).getD property) := by
  have resolves : s.qualified qualifier = .ok e := by
    simp only [qualified, stands, Option.getD_some, found]
  rw [key_of_entity resolves ofQualifier ofProperty, other, if_neg Bool.false_ne_true]

/-- A resolved script is its words, resolved one by one. -/
theorem script_eq_resolved {text sql : String} (ok : s.script text = .ok sql) :
    sql = joinWith " " ((words text).map s.resolved) := by
  obtain ⟨tokens, each, result⟩ := bind_eq_ok.mp ok
  have same : List.Forall₂ (fun word token => s.resolved word = id token) (words text) tokens :=
    (mapM_eq_ok_iff.mp each).imp fun word token found => by rw [resolved, found]; rfl
  rw [← pure_eq_ok.mp result, map_eq_map_of_forall₂ same, List.map_id]

theorem resolved_of_bare (bare : w ≠ "" ∧ ∀ c ∈ w.toList, isBare c) :
    s.resolved w = s.simpleKey w := by
  rw [resolved, token_of_bare bare.1 bare.2]
  rfl

end Scope

/-- The tokens of a chain, resolved in the scope of its names. -/
theorem Source.Chain.map_resolved {catalog : Catalog} {e : Entity} (chain : Chain)
    (linked : ∀ step ∈ chain.steps, step.link.announces)
    (registered : ∀ r ∈ chain.references, (catalog.lookup? r.entity).isSome)
    (distinct : chain.Distinct catalog) (settled : chain.Settled)
    (kept : ∀ w ∈ chain.fixed, e.Keeps w) :
    chain.body.map (Scope.resolved ⟨catalog, e, Dictionary.ofList (declarations true chain.tokens)⟩) =
      chain.rendered catalog.tableOf
        (Scope.resolved ⟨catalog, e, Dictionary.ofList (declarations true chain.tokens)⟩) := by
  refine map_body rfl ?_ ?_
  · -- an entity stands for itself, so its table takes its place
    intro r member
    obtain ⟨f, isEntity⟩ := Option.isSome_iff_exists.mp (registered r member)
    rw [Scope.resolved_of_bare (bare_of_isName r.named), Catalog.tableOf, isEntity]
    exact Scope.simpleKey_of_named (chain.find?_entity distinct settled linked member) isEntity
  · -- an alias stands for something else, and a keyword for nothing
    intro w member
    have other : (Dictionary.ofList (declarations true chain.tokens)).find? w ≠ some w := by
      rcases chain.mem_fixed_cases member with keyword | isAlias
      · rw [chain.find?_keyword keyword]
        exact Option.some_ne_none w |>.symm
      · obtain ⟨r, isReference, n, named, rfl⟩ := mem_aliases.mp isAlias
        rw [chain.find?_alias distinct settled linked isReference named]
        intro same
        exact (distinct.entities _ isAlias r isReference).1 (Option.some.inj same).symm
    rw [Scope.resolved_of_bare (chain.bare_of_mem_fixed member)]
    exact Scope.simpleKey_of_keeps other (kept w member)

namespace Criteria

variable {c : Criteria} {catalog : Catalog} {settings : Settings} {s : Select} {script : String}
  {chain : Source.Chain} {e : Entity}

/-- Declared aliases survive into the FROM clause. Take a read with a projection that compiles. Let
its source be a chain of references to registered entities, with commas or joins between them and
blanks around each token, whose aliases are pairwise distinct and none of the names of its entities,
and whose conditions declare none of its names again; and let the primary entity have no other
column under a word of the chain, nor be named by it. Then the FROM clause is the chain with tables
in the place of entities, with aliases and keywords as they stand, and with its conditions resolved;
and each alias qualifies the columns of its own entity. -/
theorem source_of_chain (projected : c.projected.isSome) (given : c.source = some script)
    (spelled : Source.Spells false chain.tokens script.toList)
    (linked : ∀ step ∈ chain.steps, step.link.announces)
    (registered : ∀ r ∈ chain.references, (catalog.lookup? r.entity).isSome)
    (distinct : chain.Distinct catalog) (settled : chain.Settled)
    (found : catalog.lookup? c.entity = some e) (kept : ∀ w ∈ chain.fixed, e.Keeps w)
    (ok : (c.compile catalog settings).outcome = .ok s) :
    (∃ hint, s.source = Select.clauses
        ["FROM " ++ joinWith " " (chain.rendered catalog.tableOf (c.scope catalog e).resolved),
          hint] ∧
      (hint = "" ∨ ∃ index, given? c.forceIndex = some index ∧
        hint = "FORCE INDEX(" ++ trim index ++ ")")) ∧
    ∀ r ∈ chain.references, ∀ n, r.naming = some n → ∀ property, isIdentifier property →
      ∃ f, catalog.lookup? r.entity = some f ∧
        (c.scope catalog e).key (n.name ++ "." ++ property) =
          .ok (n.name ++ "." ++ (f.column? property).getD property) := by
  have ofScope := scope_of_spells projected given spelled catalog e
  constructor
  · have rendered : chain.body.map (c.scope catalog e).resolved =
        chain.rendered catalog.tableOf (c.scope catalog e).resolved := by
      rw [ofScope]
      exact chain.map_resolved linked registered distinct settled kept
    obtain ⟨e', -, source, -, -, -, -, found', -, ofSource, -, -, -, -, rfl⟩ := compile_eq_ok ok
    obtain rfl := Option.some.inj (found.symm.trans found')
    obtain ⟨sql, hint, resolved, ofHint, rfl⟩ := fromClause_eq_ok ofSource
    have isSource : c.sourceScript (c.scope catalog e).entity = Source.withoutFrom script :=
      sourceScript_of_spells given spelled e
    rw [isSource] at resolved
    refine ⟨hint, ?_, ofHint⟩
    rw [Scope.script_eq_resolved resolved, chain.words_withoutFrom spelled, rendered]
  · intro r member n named property identifier
    obtain ⟨f, isEntity⟩ := Option.isSome_iff_exists.mp (registered r member)
    have isAlias : n.name ∈ chain.aliases := Source.Chain.mem_aliases.mpr ⟨r, member, n, named, rfl⟩
    refine ⟨f, isEntity, ?_⟩
    rw [ofScope]
    exact Scope.key_qualified (Source.isIdentifier_of_isName n.named) identifier
      (chain.find?_alias distinct settled linked member named) isEntity
      ((distinct.entities _ isAlias r member).2 f isEntity)

end Criteria

namespace Depot

/-- Orders that go by the name of a property of their items. -/
def namesakeChain : Source.Chain :=
  joined ⟨none, "orderId", by decide +kernel⟩ leftJoin ["i.orderId", "=", "orderId.id"]
    (by decide +kernel)

/-- A read of items with the orders that go by the name of a property. -/
def namesake : Criteria where
  entity := "OrderItem"
  source := some "FROM order orderId LEFT join orderItem as i ON i.orderId = orderId.id"
  projected := some { resultKeys := ["orderId.id"] }

end Depot

/-- Items behind LEFT JOIN, in the FROM clause and in a column. -/
theorem Criteria.source_of_chain_leftJoin :
    ∃ s, ((Depot.items "FROM order o LEFT join orderItem as i ON i.orderId = o.id").compile
        Depot.catalog {}).outcome = .ok s ∧
      s.source = "FROM t_order o LEFT join t_order_item as i ON i.order_id = o.id" ∧
      ((Depot.items "FROM order o LEFT join orderItem as i ON i.orderId = o.id").scope
        Depot.catalog Depot.order).key "i.orderId" = .ok "i.order_id" := by
  have spelled : Source.Spells false (Depot.chain Depot.leftJoin).tokens
      "FROM order o LEFT join orderItem as i ON i.orderId = o.id".toList :=
    Source.spells_joinWith (by decide +kernel)
  obtain ⟨s, ok⟩ := Outcome.exists_of_isOk
    (x := ((Depot.items "FROM order o LEFT join orderItem as i ON i.orderId = o.id").compile
      Depot.catalog {}).outcome) (by decide +kernel)
  obtain ⟨⟨hint, source, ofHint⟩, columns⟩ := source_of_chain rfl rfl spelled (by decide +kernel)
    (by decide +kernel) (by decide +kernel) (by decide +kernel)
    (rfl : Depot.catalog.lookup? "Order" = some Depot.order) (by decide +kernel) ok
  refine ⟨s, ok, ?_, ?_⟩
  · obtain rfl | ⟨index, given, -⟩ := ofHint
    · rw [source]
      decide +kernel
    · cases given
  · obtain ⟨f, found, column⟩ := columns _ (.tail _ (.head _)) _ rfl "orderId" (by decide +kernel)
    cases found
    exact column

/-- Aliases that the primary entity has a column for are lost. The FROM clause names the orders
`order_id`, and the column of their key asks for `orderId`. -/
theorem Criteria.source_of_namesake :
    Source.Spells false Depot.namesakeChain.tokens
        "FROM order orderId LEFT join orderItem as i ON i.orderId = orderId.id".toList ∧
      (∀ step ∈ Depot.namesakeChain.steps, step.link.announces) ∧
      (∀ r ∈ Depot.namesakeChain.references, (Depot.catalog.lookup? r.entity).isSome) ∧
      Depot.namesakeChain.Distinct Depot.catalog ∧ Depot.namesakeChain.Settled ∧
      ((Depot.namesake.compile Depot.catalog {}).outcome.map fun s => (s.columns, s.source)) =
        .ok ("orderId.id AS c0",
          "FROM t_order order_id LEFT join t_order_item as i ON i.order_id = orderId.id") :=
  ⟨Source.spells_joinWith (by decide +kernel), by decide +kernel, by decide +kernel,
    by decide +kernel, by decide +kernel, by decide +kernel⟩

end BoundQuery
