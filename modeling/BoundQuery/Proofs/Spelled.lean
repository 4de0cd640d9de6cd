import BoundQuery.Proofs.Forest
import BoundQuery.Proofs.Leaves
import BoundQuery.Proofs.Placeholders

/-!
# Conditions spelled out

A second rendering of conditions, as text from the start: the values stand in their places, written
by a function of the caller's choice, and the place of the next part is carried along the list. It
binds nothing. It fails where rendering fails, and else gives the rendered fragment with its values
in place.

## Main definitions

* `Filter.spelled`, conditions with their values written in place

## Main results

* `Filter.spelled_eq` — the two renderings agree
-/

namespace BoundQuery

open Placeholder

namespace Position

/-- The word in front of a part. -/
def word : Position → Option Conjunction → Option String
  | .whereFirst, _ => some "WHERE"
  | .groupFirst, _ => none
  | _, c => c.map Conjunction.sql

/-- The place behind a part. -/
def next : Position → Position
  | .whereFirst => .whereNext
  | .groupFirst => .groupNext
  | p => p

/-- A part behind its word. -/
def led (p : Position) (c : Option Conjunction) (part : String) : String :=
  match p.word c with
  | some w => w ++ " " ++ part
  | none => part

end Position

namespace Filter

variable (f : Filter) (lit : Value → String)

/-- A member of a list: written out where that is safe, else in place of its placeholder. -/
def spelledMember (v : Value) : Except CompileError String :=
  if Literal.isSafe v then f.dialect.literal v else .ok (lit v.bound)

/-- A list of members; nulls are left out. -/
def spelledMembers (vs : List Value) : Except CompileError String := do
  let items ← (vs.filter fun v => !v.isNull).mapM (f.spelledMember lit)
  if items.isEmpty then throw (.syntaxFault .emptyList)
  return "(" ++ Text.joinWith ", " items ++ ")"

/-- The operand of a predicate. -/
def spelledOperand (c : Condition) (operand : Operand) : Except CompileError String :=
  match c.predicate.shape with
  | .membership => do f.spelledMembers lit (← members c operand)
  | .between =>
    match operand with
    | .range min max => .ok (lit min.bound ++ " AND " ++ lit max.bound)
    | _ => .error (.syntaxFault (.needsRange c.key))
  | _ =>
    match operand with
    | .value v =>
      match inline? v with
      | some expression => f.scope.script expression
      | none => .ok (lit v.bound)
    | _ => .error (.syntaxFault (.needsValue c.predicate c.key))

/-- A predicate with an operand. -/
def spelledPredicate (c : Condition) : Except CompileError (Option String) :=
  match c.operand with
  | none => .ok none
  | some operand =>
    if operand.isAbsent || Text.isBlankText c.key then .ok none
    else do
      let key ← f.scope.script c.key
      let operand ← f.spelledOperand lit c operand
      return some (key ++ " " ++ c.predicate.sql ++ " " ++ operand)

/-- A condition without children. -/
def spelledLeaf (c : Condition) : Except CompileError (Option String) :=
  match c.predicate.shape with
  | .marker => .ok none
  | .script => do
    let script ← f.scope.script c.key
    return if script.isEmpty then none
      else some (fill lit script (c.scriptValues.map Value.bound)).1
  | .nullCheck =>
    if Text.isBlankText (checked c) then .ok none
    else do return some ((← f.scope.script (checked c)) ++ " " ++ c.predicate.sql)
  | _ => f.spelledPredicate lit c

mutual

/-- A condition; a group of which nothing is left gives nothing. -/
def spelledNode : Condition → Except CompileError (Option String)
  | ⟨key, operand, predicate, conjunction, []⟩ =>
    f.spelledLeaf lit ⟨key, operand, predicate, conjunction, []⟩
  | ⟨_, _, _, _, c :: cs⟩ => do
    let parts ← spelledParts .groupFirst (c :: cs)
    return if parts.isEmpty then none else some ("(" ++ Text.joinWith " " parts ++ ")")

/-- The parts of conditions from a place on, each behind its word. -/
def spelledParts (p : Position) : List Condition → Except CompileError (List String)
  | [] => .ok []
  | c :: cs => do
    match ← spelledNode c with
    | none => spelledParts p cs
    | some part =>
      let parts ← spelledParts p.next cs
      return p.led c.conjunction part :: parts

end

/-- Conditions at a place, with their values written in place. -/
def spelled (p : Position) (cs : List Condition) : Except CompileError String :=
  (f.spelledParts lit p cs).map (Text.joinWith " ")

end Filter

/-! ### The two renderings agree -/

theorem Text.joinWith_cons (separator s : String) (texts : List String) :
    joinWith separator (s :: texts) = s ++ String.join (texts.map (separator ++ ·)) := by
  induction texts generalizing s with
  | nil => simp [joinWith]
  | cons t texts ih =>
    rw [joinWith, ih, List.map_cons, String.join_cons]
    · simp only [String.append_assoc]
    · exact List.cons_ne_nil t texts

namespace Position

variable (lit : Value → String)

/-- Terms as parts from a place on. -/
def ledAll (p : Position) : List Term → List String
  | [] => []
  | t :: ts => p.led t.conjunction (t.body.filled lit) :: p.next.ledAll ts

/-- From the second part on, each is led by its conjunction. -/
theorem join_ledAll_next (p : Position) (ts : List Term) :
    String.join ((p.next.ledAll lit ts).map (" " ++ ·)) =
      Fragment.filled lit (ts.flatMap fun u => .text " " :: joining u.conjunction ++ u.body) := by
  -- behind the first part the place does not change any more
  have still : p.next.next = p.next := by cases p <;> rfl
  have word : ∀ c, p.next.word c = c.map Conjunction.sql := by cases p <;> exact fun c => rfl
  induction ts with
  | nil => rfl
  | cons t ts ih =>
    rw [ledAll, still, List.map_cons, String.join_cons, ih, List.flatMap_cons,
      Fragment.filled_append, led, word]
    cases t.conjunction with
    | none => simp [joining, Piece.filled]
    | some c => simp [joining, Piece.filled, String.append_assoc]

/-- Laying terms in a row is joining them as parts. -/
theorem joinWith_ledAll (p : Position) (ts : List Term) :
    Text.joinWith " " (p.ledAll lit ts) = Fragment.filled lit (p.lay ts) := by
  cases ts with
  | nil => rfl
  | cons t ts =>
    rw [ledAll, Text.joinWith_cons, join_ledAll_next, lay, Fragment.filled_append,
      Fragment.filled_append]
    have first : p.led t.conjunction (Fragment.filled lit t.body) =
        Fragment.filled lit (p.lead t.conjunction) ++ Fragment.filled lit t.body := by
      cases p <;> cases t.conjunction <;>
        simp [led, word, lead, joining, Piece.filled, String.append_assoc]
    rw [first]

end Position

namespace Filter

variable {f : Filter} {lit : Value → String} {c : Condition} {cs : List Condition}

theorem spelledMember_eq (v : Value) :
    f.spelledMember lit v = (f.dialect.member v).map (Piece.filled lit) := by
  rw [spelledMember, Dialect.member]
  split
  · cases f.dialect.literal v with
    | error e => rfl
    | ok text => rfl
  · rfl

/-- A list of members is spelled out as it is rendered, with its values in place. -/
theorem spelledMembers_eq (vs : List Value) :
    f.spelledMembers lit vs = (f.dialect.memberList vs).map (Fragment.filled lit) := by
  have each : f.spelledMember lit = fun v => (f.dialect.member v).map (Piece.filled lit) :=
    funext spelledMember_eq
  rw [spelledMembers, each, Outcome.mapM_map, Dialect.memberList]
  cases (vs.filter fun v => !v.isNull).mapM f.dialect.member with
  | error e => rfl
  | ok pieces =>
    cases pieces with
    | nil => rfl
    | cons piece pieces =>
      have single : Fragment.filled lit ∘ (fun p => [p]) = Piece.filled lit := by
        funext p
        exact String.append_empty
      change Except.ok _ = Except.ok _
      rw [List.cons_append, Fragment.filled_cons, Fragment.filled_append, Fragment.filled_joined,
        List.map_map, single]
      simp [Piece.filled, String.append_assoc]

/-- What follows the key of a leaf is spelled out as it is rendered. -/
theorem spelledOperand_eq (shape : c.predicate.shape.comparesKey) (operand : Operand) :
    (f.rest c operand).map (Fragment.filled lit) =
      (f.spelledOperand lit c operand).map (c.predicate.sql ++ " " ++ ·) := by
  unfold spelledOperand
  cases kind : c.predicate.shape with
  | membership =>
    rw [rest_membership kind]
    cases members c operand with
    | error e => rfl
    | ok vs =>
      change _ = (f.spelledMembers lit vs).map _
      rw [spelledMembers_eq]
      change ((f.dialect.memberList vs) >>= fun list => pure _).map _ = _
      cases f.dialect.memberList vs with
      | error e => rfl
      | ok list =>
        change Except.ok _ = Except.ok _
        simp [Piece.filled, String.append_assoc]
  | between =>
    have word : c.predicate.sql = "BETWEEN" := by
      cases h : c.predicate <;> simp_all [Predicate.shape, Predicate.sql]
    cases operand with
    | range min max =>
      rw [rest_range kind, word]
      change Except.ok _ = Except.ok _
      simp [Piece.filled, ← String.append_assoc]
    | value v => rw [rest_of_not_range kind (by simp)]; rfl
    | list vs => rw [rest_of_not_range kind (by simp)]; rfl
  | single =>
    cases operand with
    | value v =>
      cases inlined : inline? v with
      | none =>
        rw [rest_value kind inlined]
        simp only [inlined]
        change Except.ok _ = Except.ok _
        simp [Piece.filled, String.append_assoc]
      | some e =>
        rw [rest_expression kind inlined]
        simp only [inlined]
        cases f.scope.script e with
        | error e => rfl
        | ok sql =>
          change Except.ok _ = Except.ok _
          simp [Piece.filled, String.append_assoc]
    | list vs => rw [rest_of_not_value kind (by simp)]; rfl
    | range min max => rw [rest_of_not_value kind (by simp)]; rfl
  | marker => rw [kind] at shape; cases shape
  | script => rw [kind] at shape; cases shape
  | nullCheck => rw [kind] at shape; cases shape

/-- A leaf that compares its key is spelled out as it is rendered. -/
theorem spelledPredicate_eq (shape : c.predicate.shape.comparesKey) :
    f.spelledPredicate lit c = (f.predicateBody c).map (Option.map (Fragment.filled lit)) := by
  rw [spelledPredicate, predicateBody]
  cases c.operand with
  | none => rfl
  | some operand =>
    have follows : (f.rest c operand).map (Fragment.filled lit) = _ :=
      spelledOperand_eq shape operand
    dsimp only
    split
    · rfl
    · cases f.scope.script c.key with
      | error e => rfl
      | ok key =>
        -- by `follows` both operands fail, with one error, or both give a text
        cases rest : f.rest c operand with
        | error e =>
          cases spelled : f.spelledOperand lit c operand with
          | error e' =>
            rw [rest, spelled] at follows
            cases follows
            rfl
          | ok text => rw [rest, spelled] at follows; cases follows
        | ok g =>
          cases spelled : f.spelledOperand lit c operand with
          | error e => rw [rest, spelled] at follows; cases follows
          | ok text =>
            rw [rest, spelled] at follows
            have same : Fragment.filled lit g = c.predicate.sql ++ " " ++ text :=
              Except.ok.inj follows
            change Except.ok (some _) = Except.ok (some _)
            simp [Piece.filled, same, String.append_assoc]

/-- A leaf is spelled out as it is rendered, with its values in place. -/
theorem spelledLeaf_eq (c : Condition) :
    f.spelledLeaf lit c = (f.leafBody c).map (Option.map (Fragment.filled lit)) := by
  unfold spelledLeaf
  cases kind : c.predicate.shape with
  | marker => rw [leafBody_marker kind]; rfl
  | script =>
    rw [leafBody_script kind, scriptBody_eq]
    cases f.scope.script c.key with
    | error e => rfl
    | ok sql =>
      by_cases empty : sql.isEmpty
      · simp [bind, Except.bind, pure, Except.pure, Except.map, empty]
      · simp [bind, Except.bind, pure, Except.pure, Except.map, empty, Piece.filled]
  | nullCheck =>
    rw [leafBody_nullCheck kind, nullCheckBody]
    by_cases blank : Text.isBlankText (checked c)
    · simp [blank, Except.map, pure, Except.pure]
    · cases f.scope.script (checked c) with
      | error e => simp [blank, bind, Except.bind, Except.map]
      | ok sql =>
        simp [blank, bind, Except.bind, Except.map, pure, Except.pure, Piece.filled,
          String.append_assoc]
  | membership | between | single =>
    have shape : c.predicate.shape.comparesKey := by rw [kind]; rfl
    rw [leafBody_comparesKey shape]
    exact spelledPredicate_eq shape

/-! ### Forests -/

theorem spelledNode_leaf (isLeaf : c.children = []) :
    f.spelledNode lit c = f.spelledLeaf lit c := by
  obtain ⟨key, operand, predicate, conjunction, children⟩ := c
  obtain rfl : children = [] := isLeaf
  rw [spelledNode]

theorem spelledNode_group (isGroup : c.children ≠ []) :
    f.spelledNode lit c = (do
      let parts ← f.spelledParts lit .groupFirst c.children
      return if parts.isEmpty then none else some ("(" ++ Text.joinWith " " parts ++ ")")) := by
  obtain ⟨key, operand, predicate, conjunction, children⟩ := c
  cases children with
  | nil => exact absurd rfl isGroup
  | cons d ds => rw [spelledNode]

/-- A list is spelled out from its first condition on. -/
theorem spelledParts_cons {node : Except Halt (Option Fragment)} {rest : Except Halt (List Term)}
    {p : Position} (first : f.spelledNode lit c =
      (node.mapError Halt.error).map (Option.map (Fragment.filled lit)))
    (others : ∀ q, f.spelledParts lit q cs = (rest.mapError Halt.error).map (q.ledAll lit))
    (ofBody : f.body c = node) (ofTerms : f.terms cs = rest) :
    f.spelledParts lit p (c :: cs) =
      ((f.terms (c :: cs)).mapError Halt.error).map (p.ledAll lit) := by
  rw [spelledParts, terms, first, ofBody, ofTerms]
  cases node with
  | error h => rfl
  | ok b =>
    cases b with
    | none => exact others p
    | some b =>
      change (f.spelledParts lit p.next cs >>= fun parts => pure _) = _
      rw [others]
      cases rest with
      | error h => rfl
      | ok ts => rfl

/-- Conditions are spelled out as they are rendered: the parts are the terms. -/
theorem spelledParts_eq (p : Position) (cs : List Condition) :
    f.spelledParts lit p cs = ((f.terms cs).mapError Halt.error).map (p.ledAll lit) := by
  induction cs using Condition.forest_induction generalizing p with
  | nil => rw [spelledParts, terms_nil]; rfl
  | leaf c cs isLeaf ih =>
    refine spelledParts_cons ?_ ih (body_leaf isLeaf) rfl
    rw [spelledNode_leaf isLeaf, spelledLeaf_eq]
    cases f.leafBody c with
    | error e => rfl
    | ok b => rfl
  | group c cs isGroup inner ih =>
    refine spelledParts_cons ?_ ih (body_group isGroup) rfl
    rw [spelledNode_group isGroup, inner]
    cases f.terms c.children with
    | error h => rfl
    | ok ts =>
      -- no terms give no parts, and then both renderings leave the group out
      cases ts with
      | nil => rfl
      | cons t ts =>
        change Except.ok (some _) = Except.ok (some _)
        rw [Position.joinWith_ledAll]
        simp [Piece.filled, String.append_assoc]

/-- Spelling conditions out is rendering them and writing the values in place; it fails where
rendering fails, with the same error. -/
theorem spelled_eq (p : Position) (cs : List Condition) :
    f.spelled lit p cs = (f.compile p cs).map (Fragment.filled lit) := by
  rw [spelled, spelledParts_eq, compile, render]
  cases f.terms cs with
  | error h => rfl
  | ok ts => exact congrArg Except.ok (Position.joinWith_ledAll lit p ts)

end Filter

end BoundQuery
