import BoundQuery.Proofs.Resolution
import BoundQuery.Proofs.SourceTokens

/-!
# Chains of joins

A source is a chain of table references with commas or joins between them, each reference with or
without an alias, each join with or without a condition. The tokens of a chain are scanned for
declarations with one flag, which says whether an entity may come next; at each reference the flag
is known.

## Main definitions

* `Source.Chain`, with `Source.Reference`, `Source.Link` and `Source.JoinCondition` for its parts
* `Source.Chain.tokens`, a chain as it is written
* `Source.Reference.declared`, the names that a reference declares
* `Source.Chain.announced`, the references that are found

## Main results

* `Source.declarations_step` — what one step of a chain declares
* `Source.Chain.declared_of_mem`, `Source.Chain.mem_of_declared` — what a chain declares
-/

namespace BoundQuery.Source

open Text

/-! ### The grammar -/

/-- One of the given words, in any case. -/
structure Word (choices : List String) where
  text : String
  isOne : choices.any fun k => sameIgnoringCase k text

/-- The name behind a table reference. -/
structure Naming where
  as? : Option (Word ["AS"])
  name : String
  named : isName name

/-- An entity in table position. -/
structure Reference where
  entity : String
  named : isName entity
  naming : Option Naming

/-- What stands between two references. -/
inductive Link where
  | comma
  | join (modifiers : List (Word ["INNER", "LEFT", "RIGHT", "OUTER", "CROSS", "FULL", "NATURAL"]))
    (word : Word ["JOIN"])
  | straight (word : Word ["STRAIGHT_JOIN"])

/-- The condition of a join. -/
structure JoinCondition where
  word : Word ["ON", "USING"]
  tokens : List String
  plain : ∀ t ∈ tokens, isToken t ∧ t ≠ ","

/-- A reference with what links it to those before it, and its condition. -/
structure Step where
  link : Link
  reference : Reference
  condition : Option JoinCondition

/-- A source: references, one after the other. -/
structure Chain where
  lead : Option (Word ["FROM"])
  first : Reference
  steps : List Step

/-- The tokens of a name behind a reference. -/
def Naming.tokens (n : Naming) : List String :=
  (n.as?.map Word.text).toList ++ [n.name]

/-- The tokens of a reference. -/
def Reference.tokens (r : Reference) : List String :=
  r.entity :: (r.naming.map Naming.tokens).getD []

/-- The names that a reference declares: its entity and its alias. -/
def Reference.names (r : Reference) : List String :=
  r.entity :: (r.naming.map Naming.name).toList

/-- The names that a reference declares, with the entity they stand for. -/
def Reference.declared (r : Reference) : List (String × String) :=
  r.names.map (·, r.entity)

/-- The tokens between two references. -/
def Link.tokens : Link → List String
  | .comma => [","]
  | .join modifiers word => modifiers.map Word.text ++ [word.text]
  | .straight word => [word.text]

/-- Is the reference behind the link found? A comma and JOIN announce an entity. -/
def Link.announces : Link → Bool
  | .comma | .join _ _ => true
  | .straight _ => false

/-- The names that a condition itself declares, as by a FROM inside it. -/
def JoinCondition.declared (c : JoinCondition) : List (String × String) :=
  declarations false c.tokens

namespace Step

/-- The tokens of a step's condition. -/
def conditionTokens (s : Step) : List String :=
  match s.condition with
  | some c => c.word.text :: c.tokens
  | none => []

/-- The tokens of a step. -/
def tokens (s : Step) : List String :=
  s.link.tokens ++ (s.reference.tokens ++ s.conditionTokens)

/-- The names that a step's condition declares. -/
def conditionDeclared (s : Step) : List (String × String) :=
  (s.condition.map JoinCondition.declared).getD []

end Step

namespace Chain

/-- The tokens of a chain, without a leading FROM. -/
def body (chain : Chain) : List String :=
  chain.first.tokens ++ chain.steps.flatMap Step.tokens

/-- The tokens of a chain. -/
def tokens (chain : Chain) : List String :=
  (chain.lead.map Word.text).toList ++ chain.body

/-- All references. -/
def references (chain : Chain) : List Reference :=
  chain.first :: chain.steps.map Step.reference

/-- The references that are found: all but those behind STRAIGHT_JOIN. -/
def announced (chain : Chain) : List Reference :=
  chain.first :: (chain.steps.filter fun s => s.link.announces).map Step.reference

/-- The conditions of the joins. -/
def conditions (chain : Chain) : List JoinCondition :=
  chain.steps.filterMap Step.condition

end Chain

/-! ### Words of join syntax -/

theorem sameIgnoringCase_comm {s t : String} : sameIgnoringCase s t = sameIgnoringCase t s := by
  rw [sameIgnoringCase, sameIgnoringCase, Bool.eq_iff_iff, beq_iff_eq, beq_iff_eq, eq_comm]

theorem not_isKeyword_of_isName {t : String} (named : isName t) : isKeyword t = false := by
  rw [isName, Bool.and_eq_true, Bool.not_eq_true'] at named
  exact named.1

/-- A name is none of the keywords, whatever its case. -/
theorem not_sameIgnoringCase_of_isName {t k : String} (named : isName t) (keyword : k ∈ keywords) :
    sameIgnoringCase t k = false := by
  have none := not_isKeyword_of_isName named
  rw [isKeyword, List.any_eq_false] at none
  rw [sameIgnoringCase_comm]
  simpa using none k keyword

theorem not_announcesEntity_of_isName {t : String} (named : isName t) :
    announcesEntity t = false := by
  have comma : (t == ",") = false := by
    rw [beq_eq_false_iff_ne]
    rintro rfl
    exact absurd named (by decide +kernel)
  rw [announcesEntity, comma, not_sameIgnoringCase_of_isName named (by decide),
    not_sameIgnoringCase_of_isName named (by decide)]
  rfl

namespace Word

variable {choices : List String} (w : Word choices)

theorem exists_same : ∃ k ∈ choices, asciiUpper w.text = asciiUpper k := by
  obtain ⟨k, member, same⟩ := List.any_eq_true.mp w.isOne
  exact ⟨k, member, (beq_iff_eq.mp same).symm⟩

theorem isKeyword (keywords : ∀ k ∈ choices, k ∈ Source.keywords) : Source.isKeyword w.text := by
  obtain ⟨k, member, same⟩ := w.exists_same
  exact List.any_eq_true.mpr
    ⟨k, keywords k member, by rw [sameIgnoringCase, same, beq_self_eq_true]⟩

theorem not_isName (keywords : ∀ k ∈ choices, k ∈ Source.keywords) : isName w.text = false := by
  rw [isName, w.isKeyword keywords]
  rfl

/-- A word compares with a text as one of its choices does. -/
theorem sameIgnoringCase_eq {t : String} {answer : Bool}
    (each : ∀ k ∈ choices, sameIgnoringCase k t = answer) : sameIgnoringCase w.text t = answer := by
  obtain ⟨k, member, same⟩ := w.exists_same
  rw [← each k member, sameIgnoringCase, sameIgnoringCase, same]

theorem ne_comma (each : ∀ k ∈ choices, sameIgnoringCase k "," = false) : w.text ≠ "," := by
  intro comma
  have other := w.sameIgnoringCase_eq each
  rw [comma] at other
  exact absurd other (by decide)

theorem not_announcesEntity (commas : ∀ k ∈ choices, sameIgnoringCase k "," = false)
    (froms : ∀ k ∈ choices, sameIgnoringCase k "FROM" = false)
    (joins : ∀ k ∈ choices, sameIgnoringCase k "JOIN" = false) :
    announcesEntity w.text = false := by
  rw [announcesEntity, w.sameIgnoringCase_eq froms, w.sameIgnoringCase_eq joins,
    beq_eq_false_iff_ne.mpr (w.ne_comma commas)]
  rfl

end Word

/-! ### Scanning -/

variable {b : Bool} {t : String} {ts rest : List String}

theorem declarations_announced (announces : announcesEntity t) :
    declarations b (t :: ts) = declarations true ts := by
  rw [declarations, if_pos announces]

theorem declarations_passed (quiet : announcesEntity t = false) (passed : b = false ∨ isName t = false) :
    declarations b (t :: ts) = declarations b ts := by
  have skipped : (b && isName t) = false := by
    rcases passed with rfl | other
    · rfl
    · rw [other, Bool.and_false]
  rw [declarations, if_neg (by simp [quiet]), if_neg (by simp [skipped])]

theorem declarations_named (named : isName t) :
    declarations true (t :: ts) =
      (t, t) :: ((takeAlias ts).1.map (·, t)).toList ++ declarations false (takeAlias ts).2 := by
  rw [declarations, if_neg (by simp [not_announcesEntity_of_isName named]), if_pos (by simp [named])]

/-- Tokens among which nothing is announced are passed while no entity is expected. -/
theorem declarations_append_of_quiet (quiet : ∀ t ∈ ts, announcesEntity t = false) :
    declarations false (ts ++ rest) = declarations false rest := by
  induction ts with
  | nil => rfl
  | cons t ts ih =>
    rw [List.forall_mem_cons] at quiet
    rw [List.cons_append, declarations_passed quiet.1 (.inl rfl), ih quiet.2]

/-- No alias starts here. -/
def Stops (ts : List String) : Prop :=
  ∀ t ∈ ts.head?, isName t = false ∧ sameIgnoringCase t "AS" = false

theorem withoutAs_of_not_as (other : sameIgnoringCase t "AS" = false) :
    withoutAs (t :: ts) = t :: ts := by
  rw [withoutAs, if_neg (by simp [other])]

theorem takeAlias_of_stops (stops : Stops ts) : takeAlias ts = (none, ts) := by
  cases ts with
  | nil => rfl
  | cons t ts =>
    obtain ⟨unnamed, other⟩ := stops t rfl
    rw [takeAlias, withoutAs_of_not_as other]
    simp [unnamed]

/-- An alias is found before what follows is looked at. -/
theorem takeAlias_append (stops : Stops rest) (ts : List String) :
    takeAlias (ts ++ rest) = ((takeAlias ts).1, (takeAlias ts).2 ++ rest) := by
  cases ts with
  | nil => exact takeAlias_of_stops stops
  | cons t ts =>
    by_cases isAs : sameIgnoringCase t "AS"
    · have dropped : ∀ us, withoutAs (t :: us) = us := fun us => by rw [withoutAs, if_pos isAs]
      rw [List.cons_append, takeAlias, takeAlias, dropped, dropped]
      cases ts with
      | nil =>
        -- AS at the end names nothing
        cases rest with
        | nil => rfl
        | cons u us => simp [(stops u rfl).1]
      | cons u us =>
        by_cases named : isName u
        · simp [named]
        · simp [named]
    · rw [Bool.not_eq_true] at isAs
      rw [List.cons_append, takeAlias, takeAlias, withoutAs_of_not_as isAs, withoutAs_of_not_as isAs]
      by_cases named : isName t
      · simp [named]
      · simp [named]

/-- Tokens before which no alias can start declare what they declare alone; only the flag reaches
the tokens behind them. -/
theorem declarations_append (stops : Stops rest) (b : Bool) (ts : List String) :
    ∃ b', declarations b (ts ++ rest) = declarations b ts ++ declarations b' rest := by
  -- the induction is on the scan itself, since an alias takes up to two tokens at once
  fun_induction declarations b ts with
  | case1 b => exact ⟨b, rfl⟩
  | case2 b t ts announces ih =>
    rw [List.cons_append, declarations_announced announces]
    exact ih
  | case3 b t ts quiet named next ih =>
    rw [Bool.and_eq_true] at named
    obtain ⟨b', later⟩ := ih
    refine ⟨b', ?_⟩
    rw [List.cons_append, named.1, declarations_named named.2, takeAlias_append stops, later,
      ← List.append_assoc]
  | case4 b t ts quiet unnamed ih =>
    rw [List.cons_append, declarations_passed (by simpa using quiet)]
    · exact ih
    · simpa [imp_iff_not_or] using unnamed

/-! ### The parts of a chain -/

theorem Naming.takeAlias_tokens (n : Naming) : takeAlias (n.tokens ++ rest) = (some n.name, rest) := by
  have taken : takeAlias (n.name :: rest) = (some n.name, rest) := by
    rw [takeAlias, withoutAs_of_not_as (not_sameIgnoringCase_of_isName n.named (by decide))]
    simp [n.named]
  cases given : n.as? with
  | none =>
    rw [tokens, given]
    exact taken
  | some w =>
    have isAs : sameIgnoringCase w.text "AS" := w.sameIgnoringCase_eq (by decide)
    rw [tokens, given, takeAlias]
    simp only [Option.map_some, Option.toList_some, List.cons_append, List.nil_append, withoutAs,
      isAs, if_true, n.named]

/-- A reference where an entity is expected declares its names. -/
theorem Reference.declarations_tokens (r : Reference) (stops : Stops rest) :
    declarations true (r.tokens ++ rest) = r.declared ++ declarations false rest := by
  rw [tokens, List.cons_append, declarations_named r.named, declared, names]
  cases r.naming with
  | none =>
    rw [Option.map_none, Option.getD_none, List.nil_append, takeAlias_of_stops stops]
    rfl
  | some n =>
    rw [Option.map_some, Option.getD_some, n.takeAlias_tokens]
    rfl

theorem Naming.quiet (n : Naming) : ∀ t ∈ n.tokens, announcesEntity t = false := by
  intro t member
  rcases List.mem_append.mp member with isAs | isAlias
  · obtain ⟨w, -, rfl⟩ := List.mem_map.mp (Option.toList_map ▸ isAs)
    exact w.not_announcesEntity (by decide) (by decide) (by decide)
  · rw [List.mem_singleton.mp isAlias]
    exact not_announcesEntity_of_isName n.named

/-- A reference where none is expected is passed. -/
theorem Reference.declarations_tokens_of_unexpected (r : Reference) :
    declarations false (r.tokens ++ rest) = declarations false rest := by
  refine declarations_append_of_quiet ?_
  rw [tokens, List.forall_mem_cons]
  refine ⟨not_announcesEntity_of_isName r.named, ?_⟩
  cases r.naming with
  | none => simp
  | some n => exact n.quiet

theorem Link.declarations_tokens (link : Link) :
    declarations b (link.tokens ++ rest) = declarations (b || link.announces) rest := by
  cases link with
  | comma =>
    rw [announces, Bool.or_true]
    exact declarations_announced rfl
  | join modifiers word =>
    rw [announces, Bool.or_true, tokens]
    induction modifiers with
    | nil =>
      have isJoin : sameIgnoringCase word.text "JOIN" := word.sameIgnoringCase_eq (by decide)
      refine declarations_announced ?_
      rw [announcesEntity, isJoin, Bool.or_true]
    | cons m ms ih =>
      rw [List.map_cons, List.cons_append, List.cons_append,
        declarations_passed (m.not_announcesEntity (by decide) (by decide) (by decide))
          (.inr (m.not_isName (by decide)))]
      exact ih
  | straight word =>
    rw [announces, Bool.or_false]
    exact declarations_passed (word.not_announcesEntity (by decide) (by decide) (by decide))
      (.inr (word.not_isName (by decide)))

/-- A link starts with a comma or a keyword. -/
theorem Link.stops (link : Link) : Stops (link.tokens ++ rest) := by
  cases link with
  | comma =>
    rintro t ⟨⟩
    decide +kernel
  | join modifiers word =>
    cases modifiers with
    | nil =>
      rintro t ⟨⟩
      exact ⟨word.not_isName (by decide), word.sameIgnoringCase_eq (by decide)⟩
    | cons m ms =>
      rintro t ⟨⟩
      exact ⟨m.not_isName (by decide), m.sameIgnoringCase_eq (by decide)⟩
  | straight word =>
    rintro t ⟨⟩
    exact ⟨word.not_isName (by decide), word.sameIgnoringCase_eq (by decide)⟩

namespace Step

variable {s : Step} {steps : List Step}

theorem stops_flatMap : Stops (steps.flatMap tokens) := by
  cases steps with
  | nil => rintro t ⟨⟩
  | cons s steps =>
    rw [List.flatMap_cons, tokens, List.append_assoc]
    exact s.link.stops

theorem stops_condition (stops : Stops rest) : Stops (s.conditionTokens ++ rest) := by
  rw [conditionTokens]
  cases s.condition with
  | none => exact stops
  | some c =>
    rintro t ⟨⟩
    exact ⟨c.word.not_isName (by decide), c.word.sameIgnoringCase_eq (by decide)⟩

theorem declarations_condition (stops : Stops rest) :
    ∃ b', declarations false (s.conditionTokens ++ rest) =
      s.conditionDeclared ++ declarations b' rest := by
  rw [conditionTokens, conditionDeclared]
  cases s.condition with
  | none => exact ⟨false, rfl⟩
  | some c =>
    obtain ⟨b', later⟩ := declarations_append stops false c.tokens
    refine ⟨b', ?_⟩
    rw [Option.map_some, Option.getD_some, JoinCondition.declared, ← later]
    exact declarations_passed (c.word.not_announcesEntity (by decide) (by decide) (by decide))
      (.inl rfl)

/-- One step of a chain declares the names of its reference, if an entity is expected or announced,
and the names of its condition. -/
theorem declarations_step (b : Bool) (stops : Stops rest) :
    ∃ b', declarations b (s.tokens ++ rest) =
      (if b || s.link.announces then s.reference.declared else []) ++
        (s.conditionDeclared ++ declarations b' rest) := by
  obtain ⟨b', later⟩ := declarations_condition (s := s) stops
  refine ⟨b', ?_⟩
  rw [tokens, List.append_assoc, Link.declarations_tokens, List.append_assoc, ← later]
  -- behind the reference no entity is expected, whether it was found or passed
  cases found : b || s.link.announces with
  | true => exact s.reference.declarations_tokens (stops_condition stops)
  | false => exact s.reference.declarations_tokens_of_unexpected

/-- The steps of a chain declare names of their references and of their conditions only. -/
theorem declared_of_mem {b : Bool} {d : String × String}
    (member : d ∈ declarations b (steps.flatMap tokens)) :
    ∃ s ∈ steps, d ∈ s.reference.declared ∨ d ∈ s.conditionDeclared := by
  induction steps generalizing b with
  | nil =>
    rw [List.flatMap_nil, declarations] at member
    cases member
  | cons s steps ih =>
    have stops : Stops (steps.flatMap tokens) := stops_flatMap
    obtain ⟨b', parts⟩ := declarations_step (s := s) b stops
    rw [List.flatMap_cons, parts] at member
    rcases List.mem_append.mp member with found | member
    · split at found
      · exact ⟨s, List.mem_cons_self, .inl found⟩
      · cases found
    · rcases List.mem_append.mp member with found | member
      · exact ⟨s, List.mem_cons_self, .inr found⟩
      · obtain ⟨u, isStep, found⟩ := ih member
        exact ⟨u, List.mem_cons_of_mem s isStep, found⟩

/-- The steps of a chain declare the names of all references that are announced. -/
theorem mem_of_declared {b : Bool} (member : s ∈ steps) (announced : s.link.announces)
    {d : String × String} (declared : d ∈ s.reference.declared) :
    d ∈ declarations b (steps.flatMap tokens) := by
  induction steps generalizing b with
  | nil => cases member
  | cons u steps ih =>
    have stops : Stops (steps.flatMap tokens) := stops_flatMap
    obtain ⟨b', parts⟩ := declarations_step (s := u) b stops
    rw [List.flatMap_cons, parts]
    rcases List.mem_cons.mp member with rfl | member
    · rw [announced, Bool.or_true, if_pos rfl]
      exact List.mem_append_left _ declared
    · exact List.mem_append_right _ (List.mem_append_right _ (ih member))

end Step

namespace Chain

variable {chain : Chain} {d : String × String}

theorem declarations_tokens (chain : Chain) : declarations true chain.tokens =
    chain.first.declared ++ declarations false (chain.steps.flatMap Step.tokens) := by
  have body : declarations true chain.body =
      chain.first.declared ++ declarations false (chain.steps.flatMap Step.tokens) :=
    chain.first.declarations_tokens Step.stops_flatMap
  rw [tokens, ← body]
  cases chain.lead with
  | none => rfl
  | some w =>
    exact declarations_announced (announcesEntity_of_from (w.sameIgnoringCase_eq (by decide)))

/-- A chain declares names of its references and of its conditions only. -/
theorem declared_of_mem (member : d ∈ declarations true chain.tokens) :
    (∃ r ∈ chain.references, d ∈ r.declared) ∨ ∃ c ∈ chain.conditions, d ∈ c.declared := by
  rw [declarations_tokens] at member
  rcases List.mem_append.mp member with found | member
  · exact .inl ⟨chain.first, List.mem_cons_self, found⟩
  · obtain ⟨s, isStep, found | found⟩ := Step.declared_of_mem member
    · exact .inl ⟨s.reference, List.mem_cons_of_mem _ (List.mem_map_of_mem isStep), found⟩
    · rw [Step.conditionDeclared] at found
      cases given : s.condition with
      | none => rw [given] at found; cases found
      | some c =>
        rw [given] at found
        exact .inr ⟨c, List.mem_filterMap.mpr ⟨s, isStep, given⟩, found⟩

/-- A chain declares the names of all references but those behind STRAIGHT_JOIN. -/
theorem mem_of_declared {r : Reference} (announced : r ∈ chain.announced) (declared : d ∈ r.declared) :
    d ∈ declarations true chain.tokens := by
  rw [declarations_tokens]
  rcases List.mem_cons.mp announced with rfl | member
  · exact List.mem_append_left _ declared
  · obtain ⟨s, isStep, rfl⟩ := List.mem_map.mp member
    rw [List.mem_filter] at isStep
    exact List.mem_append_right _ (Step.mem_of_declared isStep.1 isStep.2 declared)

end Chain

end BoundQuery.Source
