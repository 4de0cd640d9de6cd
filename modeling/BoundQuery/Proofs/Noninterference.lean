import BoundQuery.Proofs.Spelled
import BoundQuery.Statement.Select

/-!
# Values do not reach the text

Two reads whose conditions differ in bound values only have the same statements, or fail with the
same error. The conditions are compared through the rendering that writes a placeholder for each
value: it is a function of the conditions that forgets the values.

## Main definitions

* `Condition.Similar`, conditions that differ in bound values only
* `Attempt.Agree`, attempts that differ in what a view forgets only

## Main results

* `Filter.spelled_mark` — rendered conditions are the spelled ones with placeholders for values
* `Condition.Similar.pruned` — pruning keeps similar conditions similar
* `Filter.sql_compile_of_similar` — similar conditions have the same text or the same error
* `Criteria.compile_of_similar` — so do reads with similar conditions
-/

namespace BoundQuery

open Placeholder

/-! ### Similar conditions -/

namespace Condition

/-- Members of lists that take the same place in the text: nulls are left out, what is not safe is
bound, and all else is written out. -/
def SimilarMembers (v w : Value) : Prop :=
  v.isNull ∧ w.isNull ∨ v = w ∨
    (v.isNull = false ∧ w.isNull = false ∧ Literal.isSafe v = false ∧ Literal.isSafe w = false)

/-- Single values that take the same place in the text: nulls say nothing, what is no expression is
bound. -/
def SimilarValues (v w : Value) : Prop :=
  v.isNull ∧ w.isNull ∨ v = w ∨
    (v.isNull = false ∧ w.isNull = false ∧ Filter.inline? v = none ∧ Filter.inline? w = none)

/-- Operands of predicates of one shape that differ in bound values only. Operands of the wrong kind
for the predicate, and those of null checks, are the same. -/
inductive SimilarOperands : Predicate.Shape → Option Operand → Option Operand → Prop where
  | same {shape : Predicate.Shape} {x : Option Operand} : SimilarOperands shape x x
  | script {x y : Option Operand} : SimilarOperands .script x y
  | value {v w : Value} (similar : SimilarValues v w) :
    SimilarOperands .single (some (.value v)) (some (.value w))
  | range {min max min' max' : Value} :
    SimilarOperands .between (some (.range min max)) (some (.range min' max'))
  | member {v w : Value} (similar : SimilarMembers v w) :
    SimilarOperands .membership (some (.value v)) (some (.value w))
  | members {vs ws : List Value} (similar : List.Forall₂ SimilarMembers vs ws) :
    SimilarOperands .membership (some (.list vs)) (some (.list ws))

/-- Leaves that differ in bound values only, and hold their column's default both or neither. -/
structure SimilarLeaves (s : Scope) (c d : Condition) : Prop where
  key : c.key = d.key
  predicate : c.predicate = d.predicate
  conjunction : c.conjunction = d.conjunction
  operand : SimilarOperands c.predicate.shape c.operand d.operand
  holdsDefault : s.holdsDefault c = s.holdsDefault d

/-- Conditions of one shape whose leaves differ in bound values only. -/
inductive Similar (s : Scope) : List Condition → List Condition → Prop where
  | nil : Similar s [] []
  | leaf {c d : Condition} {cs ds : List Condition} (isLeaf : c.children = [])
    (isLeaf' : d.children = []) (leaves : SimilarLeaves s c d) (rest : Similar s cs ds) :
    Similar s (c :: cs) (d :: ds)
  | group {c d : Condition} {cs ds : List Condition} (isGroup : c.children ≠ [])
    (isGroup' : d.children ≠ []) (conjunction : c.conjunction = d.conjunction)
    (inner : Similar s c.children d.children) (rest : Similar s cs ds) :
    Similar s (c :: cs) (d :: ds)

namespace Similar

variable {s : Scope} {cs ds : List Condition}

theorem eq_nil_iff (similar : Similar s cs ds) : cs = [] ↔ ds = [] := by
  cases similar with
  | nil => exact Iff.rfl
  | leaf | group => simp

/-- Pruning keeps similar conditions similar: it drops a leaf here and there alike, and a group of
which nothing is left. -/
theorem pruned (similar : Similar s cs ds) : Similar s (s.pruned cs) (s.pruned ds) := by
  induction similar with
  | nil => rw [Scope.pruned_nil]; exact .nil
  | @leaf c d cs ds isLeaf isLeaf' leaves _ ih =>
    rw [Scope.pruned_leaf isLeaf, Scope.pruned_leaf isLeaf', leaves.holdsDefault]
    split
    · exact ih
    · exact .leaf isLeaf isLeaf' leaves ih
  | @group c d cs ds isGroup isGroup' conjunction _ _ inner ih =>
    rw [Scope.pruned_group isGroup, Scope.pruned_group isGroup']
    -- pruned children are similar too, so both groups are dropped or neither is
    by_cases none : s.pruned c.children = []
    · rw [if_pos none, if_pos (inner.eq_nil_iff.mp none)]
      exact ih
    · have some : s.pruned d.children ≠ [] := fun empty => none (inner.eq_nil_iff.mpr empty)
      rw [if_neg none, if_neg some]
      exact .group none some conjunction inner ih

end Similar

end Condition

/-! ### Placeholders for values -/

/-- A placeholder for any value. -/
def Placeholder.mark (_ : Value) : String := "?"

/-- A placeholder takes the place of a placeholder, so scripts stay as they are. -/
theorem Placeholder.fill_with_mark (s : String) (vs : List Value) : (fill mark s vs).1 = s := by
  have chars : ∀ (cs : List Char) (vs : List Value), (fillChars mark cs vs).1 = cs := by
    intro cs
    induction cs with
    | nil => exact fun vs => rfl
    | cons c cs ih =>
      intro vs
      by_cases isPlaceholder : isMark c
      · cases vs with
        | nil => rw [fillChars_lone isPlaceholder, ih]
        | cons v vs =>
          rw [fillChars_mark isPlaceholder, ih, beq_iff_eq.mp isPlaceholder]
          simp [mark]
      · rw [fillChars_other isPlaceholder, ih]
  rw [fill, chars, String.ofList_toList]

theorem Fragment.filled_mark (f : Fragment) : f.filled mark = f.sql := by
  induction f with
  | nil => rfl
  | cons p f ih =>
    rw [filled_cons, sql_cons, ih]
    cases p with
    | text s => rfl
    | bound v => rfl
    | script s vs => rw [Piece.filled, fill_with_mark, Piece.sql]

namespace Filter

variable {f : Filter} {c d : Condition} {cs ds : List Condition}

/-- The text of rendered conditions, without a look at what they bind. -/
theorem spelled_mark (p : Position) (cs : List Condition) :
    f.spelled mark p cs = (f.compile p cs).map Fragment.sql := by
  rw [spelled_eq]
  exact congrArg (fun view => (f.compile p cs).map view) (funext Fragment.filled_mark)

/-! ### Similar conditions have the same text -/

/-- Similar lists of members have the same text. -/
theorem spelledMembers_of_similar {vs ws : List Value}
    (similar : List.Forall₂ Condition.SimilarMembers vs ws) :
    f.spelledMembers mark vs = f.spelledMembers mark ws := by
  have items : (vs.filter fun v => !v.isNull).mapM (f.spelledMember mark) =
      (ws.filter fun v => !v.isNull).mapM (f.spelledMember mark) := by
    induction similar with
    | nil => rfl
    | @cons v w vs ws first _ ih =>
      rcases first with ⟨isNull, isNull'⟩ | rfl | ⟨isNull, isNull', isSafe, isSafe'⟩
      · rw [List.filter_cons_of_neg (by simp [isNull]), List.filter_cons_of_neg (by simp [isNull'])]
        exact ih
      · rw [List.filter_cons, List.filter_cons]
        split
        · rw [List.mapM_cons, List.mapM_cons, ih]
        · exact ih
      · have same : f.spelledMember mark v = f.spelledMember mark w := by
          rw [spelledMember, spelledMember, isSafe, isSafe']
          rfl
        rw [List.filter_cons_of_pos (by simp [isNull]), List.filter_cons_of_pos (by simp [isNull']),
          List.mapM_cons, List.mapM_cons, ih, same]
  rw [spelledMembers, spelledMembers, items]

/-- The operand of a leaf has the same text as a similar one: values are absent, or expressions, or
bound. -/
theorem spelledPredicate_of_similar {key : String} {predicate : Predicate}
    {j j' : Option Conjunction} {x y : Option Operand} {children children' : List Condition}
    (similar : Condition.SimilarOperands predicate.shape x y)
    (shape : predicate.shape.comparesKey) :
    f.spelledPredicate mark ⟨key, x, predicate, j, children⟩ =
      f.spelledPredicate mark ⟨key, y, predicate, j', children'⟩ := by
  -- the shape becomes a variable, so that the cases of `similar` can fix it
  generalize kind : predicate.shape = k at similar shape
  cases similar with
  | same => rfl
  | script => cases shape
  | range =>
    simp only [spelledPredicate, spelledOperand, kind]
    rfl
  | value similar =>
    rcases similar with ⟨isNull, isNull'⟩ | rfl | ⟨isNull, isNull', bound, bound'⟩
    · simp [spelledPredicate, Operand.isAbsent, isNull, isNull']
    · rfl
    · simp only [spelledPredicate, spelledOperand, kind, Operand.isAbsent, isNull, isNull', bound,
        bound']
      rfl
  | member similar =>
    rcases similar with ⟨isNull, isNull'⟩ | rfl | bound
    · simp [spelledPredicate, Operand.isAbsent, isNull, isNull']
    · rfl
    · have list : f.spelledMembers mark _ = f.spelledMembers mark _ :=
        spelledMembers_of_similar (.cons (.inr (.inr bound)) .nil)
      simp only [spelledPredicate, spelledOperand, kind, Operand.isAbsent, bound.1, bound.2.1,
        members, Outcome.ok_bind, list]
  | members similar =>
    have list : f.spelledMembers mark _ = f.spelledMembers mark _ :=
      spelledMembers_of_similar similar
    simp only [spelledPredicate, spelledOperand, kind, Operand.isAbsent, members, Outcome.ok_bind,
      list]

/-- A leaf has the same text as a similar one. -/
theorem spelledLeaf_of_similar {s : Scope} (similar : Condition.SimilarLeaves s c d) :
    f.spelledLeaf mark c = f.spelledLeaf mark d := by
  obtain ⟨key, x, predicate, j, children⟩ := c
  obtain ⟨key', y, predicate', j', children'⟩ := d
  obtain ⟨rfl, rfl, -, operand, -⟩ := similar
  unfold spelledLeaf
  dsimp only at operand ⊢
  cases kind : predicate.shape with
  | marker => rfl
  -- the operands of scripts are not similar in any way, but filling does not show them
  | script => simp only [fill_with_mark]
  | nullCheck =>
    rw [kind] at operand
    cases operand with
    | same => rfl
  | membership | between | single =>
    exact spelledPredicate_of_similar operand (by rw [kind]; rfl)

/-- Similar conditions have the same parts, wherever they stand. -/
theorem spelledParts_of_similar {s : Scope} (similar : Condition.Similar s cs ds) (p : Position) :
    f.spelledParts mark p cs = f.spelledParts mark p ds := by
  -- for all places at once: the place of the rest depends on whether the first part is there
  induction similar generalizing p with
  | nil => rfl
  | @leaf c d cs ds isLeaf isLeaf' leaves _ ih =>
    rw [spelledParts, spelledParts, spelledNode_leaf isLeaf, spelledNode_leaf isLeaf',
      spelledLeaf_of_similar leaves, leaves.conjunction]
    simp only [ih]
  | @group c d cs ds isGroup isGroup' conjunction _ _ inner ih =>
    rw [spelledParts, spelledParts, spelledNode_group isGroup, spelledNode_group isGroup', inner,
      conjunction]
    simp only [ih]

/-- Similar conditions have the same text, or fail with the same error. -/
theorem sql_compile_of_similar {s : Scope} (similar : Condition.Similar s cs ds) (p : Position) :
    (f.compile p cs).map Fragment.sql = (f.compile p ds).map Fragment.sql := by
  rw [← spelled_mark, ← spelled_mark, spelled, spelled, spelledParts_of_similar similar]

end Filter

/-! ### Reads -/

namespace Attempt

variable {α β γ δ : Type} {view : α → β}

/-- Attempts with the same warnings that fail with the same error, or whose results a view cannot
tell apart. -/
structure Agree (view : α → β) (x y : Attempt α) : Prop where
  warnings : x.warnings = y.warnings
  outcome : x.outcome.map view = y.outcome.map view

/-- Two attempts that agree both fail, with one error, or both succeed. -/
theorem Agree.fail_or_succeed {x y : Attempt α} (agree : Agree view x y) :
    (∃ error, x.outcome = .error error ∧ y.outcome = .error error) ∨
      ∃ a b, x.outcome = .ok a ∧ y.outcome = .ok b ∧ view a = view b := by
  have outcome := agree.outcome
  cases ofX : x.outcome with
  | error e =>
    rw [ofX] at outcome
    cases ofY : y.outcome with
    | error e' =>
      rw [ofY] at outcome
      cases outcome
      exact .inl ⟨e, rfl, rfl⟩
    | ok b => rw [ofY] at outcome; cases outcome
  | ok a =>
    rw [ofX] at outcome
    cases ofY : y.outcome with
    | error e => rw [ofY] at outcome; cases outcome
    | ok b =>
      rw [ofY] at outcome
      exact .inr ⟨a, b, rfl, rfl, Except.ok.inj outcome⟩

/-- Attempts that agree, each followed by one that agrees on results the first view cannot tell
apart. -/
theorem Agree.bind {inner : γ → δ} {x y : Attempt γ} {f g : γ → Attempt α} (first : Agree inner x y)
    (next : ∀ a b, inner a = inner b → Agree view (f a) (g b)) :
    Agree view (x >>= f) (y >>= g) := by
  change Agree view (x.andThen f) (y.andThen g)
  rcases first.fail_or_succeed with ⟨e, ofX, ofY⟩ | ⟨a, b, ofX, ofY, same⟩
  · simp only [andThen, ofX, ofY, first.warnings]
    exact ⟨rfl, rfl⟩
  · obtain ⟨warnings, outcome⟩ := next a b same
    simp only [andThen, ofX, ofY, first.warnings, warnings]
    exact ⟨rfl, outcome⟩

/-- One attempt, followed by attempts that agree. -/
theorem Agree.andThen (x : Attempt γ) {f g : γ → Attempt α}
    (next : ∀ a, Agree view (f a) (g a)) : Agree view (x >>= f) (x >>= g) := by
  have same : Agree id x x := ⟨rfl, rfl⟩
  refine same.bind ?_
  rintro a b rfl
  exact next a

theorem Agree.pure {a b : α} (same : view a = view b) : Agree view (Pure.pure a) (Pure.pure b) :=
  ⟨rfl, congrArg Except.ok same⟩

end Attempt

namespace Criteria

variable {c : Criteria} {catalog : Catalog} {settings : Settings} {ds : List Condition}

/-- Pruned or not, similar conditions stay similar. -/
theorem effectiveConditions_similar {s : Scope} (similar : Condition.Similar s c.conditions ds) :
    Condition.Similar s (c.effectiveConditions s)
      ({ c with conditions := ds }.effectiveConditions s) := by
  rw [effectiveConditions, effectiveConditions]
  split
  · exact similar.pruned
  · exact similar

/-- A read without its values. -/
def face (s : Select) : String × Option String × Labels :=
  (s.sql, s.countSql?, s.labels)

/-- The conditions enter a read through their rendered text. -/
theorem agree_of_similar {e : Entity} (found : catalog.lookup? c.entity = some e)
    (similar : Condition.Similar (c.scope catalog e) c.conditions ds) :
    (c.compile catalog settings).Agree face
      ({ c with conditions := ds }.compile catalog settings) := by
  have conditions : (liftM (Filter.compile ⟨c.scope catalog e, settings.dialect⟩ .whereFirst
        (c.effectiveConditions (c.scope catalog e))) : Attempt Fragment).Agree Fragment.sql
      (liftM (Filter.compile ⟨c.scope catalog e, settings.dialect⟩ .whereFirst
        ({ c with conditions := ds }.effectiveConditions (c.scope catalog e)))) :=
    ⟨rfl, Filter.sql_compile_of_similar (effectiveConditions_similar similar) .whereFirst⟩
  rw [compile, compile]
  simp only [found]
  refine Attempt.Agree.andThen _ fun projection => ?_
  refine Attempt.Agree.andThen _ fun source => ?_
  -- from here on the two reads hold different fragments with one text
  refine conditions.bind fun g h sameText => ?_
  refine Attempt.Agree.andThen _ fun groupBy => ?_
  refine Attempt.Agree.andThen _ fun having => ?_
  refine Attempt.Agree.andThen _ fun orderBy => ?_
  refine .pure ?_
  simp only [face, Select.sql, Select.countSql?, sameText]

theorem compile_of_unknown (unknown : catalog.lookup? c.entity = none) :
    c.compile catalog settings = .ofExcept (.error (.unresolvedEntity c.entity)) := by
  rw [compile, unknown]

/-- Reads with similar conditions have the same statements and labels, or fail with the same error,
and give the same warnings. -/
theorem compile_of_similar (settings : Settings)
    (similar : ∀ e, catalog.lookup? c.entity = some e →
      Condition.Similar (c.scope catalog e) c.conditions ds) :
    (c.compile catalog settings).warnings =
        ({ c with conditions := ds }.compile catalog settings).warnings ∧
      ((∃ error, (c.compile catalog settings).outcome = .error error ∧
          ({ c with conditions := ds }.compile catalog settings).outcome = .error error) ∨
        ∃ s t, (c.compile catalog settings).outcome = .ok s ∧
          ({ c with conditions := ds }.compile catalog settings).outcome = .ok t ∧
          s.sql = t.sql ∧ s.countSql? = t.countSql? ∧ s.labels = t.labels) := by
  cases found : catalog.lookup? c.entity with
  | none =>
    rw [compile_of_unknown found, compile_of_unknown (c := { c with conditions := ds }) found]
    exact ⟨rfl, .inl ⟨_, rfl, rfl⟩⟩
  | some e =>
    have agree : Attempt.Agree face (c.compile catalog settings) _ :=
      agree_of_similar found (similar e found)
    refine ⟨agree.warnings, ?_⟩
    rcases agree.fail_or_succeed with failed | ⟨s, t, ofS, ofT, same⟩
    · exact .inl failed
    · obtain ⟨sql, rest⟩ := Prod.mk.inj same
      obtain ⟨counting, labels⟩ := Prod.mk.inj rest
      exact .inr ⟨s, t, ofS, ofT, sql, counting, labels⟩

end Criteria

namespace Directory

def user : Entity where
  name := "User"
  table := "t_user"
  properties := .ofList [("name", ⟨"user_name", .string, false, false⟩),
    ("age", ⟨"age", .integer, false, false⟩)]

def catalog : Catalog := ⟨[user]⟩

/-- Conditions on users: a name, or one of some names and a script, and a range of ages. -/
def conditionsOn (name first low high : Value) (bound : Option Operand) : List Condition := [
  .withValue .eq "name" name,
  (Condition.group [.oneOf "u.name" [first, .null, .int 3],
    .on "u.age <> ?" .script bound]).joinedBy (some .or),
  .between "age" low high]

/-- A read of users. -/
def users (conditions : List Condition) : Criteria where
  entity := "User"
  source := some "user u"
  conditions
  projected := some { resultKeys := ["u.name"] }

def harmless : List Condition :=
  conditionsOn (.text "Ann") (.text "Bob") (.int 1) (.int 2) (some (.value (.int 4)))

def hostile : List Condition :=
  conditionsOn (.text "' OR '1'='1") (.constant "--") .null (.text ")") none

theorem similar_hostile (e : Entity) (found : catalog.lookup? (users harmless).entity = some e) :
    Condition.Similar ((users harmless).scope catalog e) (users harmless).conditions hostile := by
  obtain rfl : user = e := Option.some.inj found
  have name : Condition.SimilarValues (.text "Ann") (.text "' OR '1'='1") :=
    .inr (.inr ⟨rfl, rfl, rfl, rfl⟩)
  refine .leaf rfl rfl ⟨rfl, rfl, rfl, .value name, by decide +kernel⟩ ?_
  refine .group nofun nofun rfl ?_ ?_
  · refine .leaf rfl rfl ⟨rfl, rfl, rfl, .members ?_, by decide +kernel⟩ ?_
    · exact .cons (.inr (.inr ⟨rfl, rfl, rfl, rfl⟩)) (.cons (.inr (.inl rfl))
        (.cons (.inr (.inl rfl)) .nil))
    · exact .leaf rfl rfl ⟨rfl, rfl, rfl, .script, by decide +kernel⟩ .nil
  · exact .leaf rfl rfl ⟨rfl, rfl, rfl, .range, by decide +kernel⟩ .nil

end Directory

/-- A quote in a name does not change the statements of a read of users. -/
theorem Criteria.compile_of_similar_hostile :
    ∃ s t, ((Directory.users Directory.harmless).compile Directory.catalog {}).outcome = .ok s ∧
      ((Directory.users Directory.hostile).compile Directory.catalog {}).outcome = .ok t ∧
      s.sql = t.sql ∧ s.countSql? = t.countSql? ∧ s.labels = t.labels := by
  obtain ⟨s, ok⟩ := Outcome.exists_of_isOk
    (x := ((Directory.users Directory.harmless).compile Directory.catalog {}).outcome)
    (by decide +kernel)
  obtain ⟨-, ⟨error, failed, -⟩ | same⟩ := compile_of_similar {} Directory.similar_hostile
  · rw [ok] at failed
    cases failed
  · exact same

end BoundQuery
