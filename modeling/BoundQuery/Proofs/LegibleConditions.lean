import BoundQuery.Proofs.Noninterference
import BoundQuery.Proofs.Skeleton

/-!
# Conditions that their text tells apart

Take conditions without scripts and expressions, whose columns are single words and whose conditions
are joined by conjunctions. Their text is that of their skeleton, and it tells the skeleton: two
different filters never read the same.

## Main definitions

* `Filter.row`, `Filter.skeleton`, the skeleton of conditions
* `Filter.Legible`, the conditions above

## Main results

* `Filter.shows_terms` — the terms of legible conditions have the texts of their skeletons
* `Filter.sql_eq_iff_skeleton_eq` — legible conditions have one text exactly when they have one
  skeleton
-/

namespace BoundQuery

/-- A row as a group of its own: its first condition goes without a conjunction. -/
def Row.enclosed : Row → Option Skeleton
  | .nil => none
  | .cons _ first others => some (.group first others)

/-- A row with one condition more in front, if that condition gives text. -/
def Row.prepend (conjunction : Option Conjunction) : Option Skeleton → Row → Row
  | none, row => row
  | some k, row => .cons conjunction k row

namespace Condition

/-- The expression on the left of the operator. -/
def subject (c : Condition) : String :=
  if c.predicate.shape = .nullCheck then Filter.checked c else c.key

/-- The expression on the right of the operator, if there is one. -/
def expression? (c : Condition) : Option String :=
  match c.operand with
  | some (.value v) => Filter.inline? v
  | _ => none

mutual

/-- A condition and all conditions inside it. -/
def nodesOf : Condition → List Condition
  | ⟨key, operand, predicate, conjunction, children⟩ =>
    ⟨key, operand, predicate, conjunction, children⟩ :: nodes children

/-- Leaves and groups at any depth, in document order. -/
def nodes : List Condition → List Condition
  | [] => []
  | c :: cs => nodesOf c ++ nodes cs

end

theorem nodes_cons (c : Condition) (cs : List Condition) :
    nodes (c :: cs) = c :: nodes c.children ++ nodes cs := by
  obtain ⟨key, operand, predicate, conjunction, children⟩ := c
  rw [nodes, nodesOf]

end Condition

/-! ### Lists in texts -/

theorem Fragment.sql_joined (separator : String) (fs : List Fragment) :
    Fragment.sql (Fragment.joined separator fs) = Text.joinWith separator (fs.map Fragment.sql) := by
  fun_induction Fragment.joined separator fs with
  | case1 => rfl
  | case2 g => rfl
  | case3 g rest more ih =>
    rw [Fragment.sql_append, Fragment.sql_cons, ih, Piece.sql, ← String.append_assoc, List.map_cons,
      Text.joinWith]
    simpa using more

/-- The text of a list of members: its non-null values, each by itself. -/
theorem Dialect.sql_memberList {d : Dialect} {vs : List Value} {list : Fragment}
    (written : d.memberList vs = .ok list) :
    ∃ pieces, (vs.filter fun v => !v.isNull).mapM d.member = .ok pieces ∧
      list.sql = "(" ++ (Text.joinWith ", " (pieces.map Piece.sql) ++ ")") := by
  obtain ⟨pieces, each, rfl⟩ := Dialect.memberList_eq_ok written
  have single : (Fragment.sql ∘ fun p : Piece => [p]) = Piece.sql := by
    funext p
    exact String.append_empty
  refine ⟨pieces, each, ?_⟩
  rw [Fragment.sql_append, Fragment.sql_cons, Fragment.sql_joined, List.map_map, single,
    String.append_assoc]
  rfl

namespace Filter

/-! ### The skeleton of conditions -/

/-- What stands on the right of a leaf that compares its key. -/
def rightSide? (f : Filter) (c : Condition) (operand : Operand) : Option RightSide :=
  match c.predicate.shape, operand with
  | .single, .value _ => some .placeholder
  | .between, .range _ _ => some .pair
  | .membership, operand => do
    let vs ← (members c operand).toOption
    let pieces ← ((vs.filter fun v => !v.isNull).mapM f.dialect.member).toOption
    return .items (pieces.map Piece.sql)
  | _, _ => none

/-- The skeleton of a leaf, if it gives text. -/
def leafSkeleton (f : Filter) (c : Condition) : Option Skeleton :=
  match c.predicate.shape with
  | .marker | .script => none
  | .nullCheck =>
    if Text.isBlankText (checked c) then none
    else do
      let column ← (f.scope.script (checked c)).toOption
      return .leaf column c.predicate .nothing
  | _ => do
    let operand ← c.operand
    if operand.isAbsent || Text.isBlankText c.key then none
    else do
      let column ← (f.scope.script c.key).toOption
      let right ← f.rightSide? c operand
      return .leaf column c.predicate right

mutual

/-- The skeleton of a condition, if it gives text. -/
def skeletonOf (f : Filter) : Condition → Option Skeleton
  | ⟨key, operand, predicate, conjunction, []⟩ =>
    f.leafSkeleton ⟨key, operand, predicate, conjunction, []⟩
  | ⟨_, _, _, _, c :: cs⟩ => (f.row (c :: cs)).enclosed

/-- The skeletons of the conditions that give text, with their conjunctions. -/
def row (f : Filter) : List Condition → Row
  | [] => .nil
  | c :: cs => (f.row cs).prepend c.conjunction (f.skeletonOf c)

end

/-- The skeleton of conditions, as the group that they form; conditions without text have none. -/
def skeleton (f : Filter) (cs : List Condition) : Option Skeleton :=
  (f.row cs).enclosed

/-! ### Legible conditions -/

/-- A leaf that its text tells: no script, no expression on the right, and a single word of
identifiers and points on the left. -/
structure LegibleLeaf (f : Filter) (c : Condition) : Prop where
  notScript : c.predicate ≠ .script
  bound : c.expression? = none
  column : ∃ word, f.scope.script c.subject = .ok word ∧ Text.isPath word

instance (f : Filter) (c : Condition) : Decidable (f.LegibleLeaf c) :=
  decidable_of_iff (c.predicate ≠ .script ∧ c.expression? = none ∧
      (f.scope.script c.subject).toOption.any Text.isPath) <| by
    constructor
    · rintro ⟨notScript, bound, column⟩
      refine ⟨notScript, bound, ?_⟩
      cases resolved : f.scope.script c.subject with
      | error e =>
        rw [resolved] at column
        cases column
      | ok word =>
        rw [resolved] at column
        exact ⟨word, rfl, column⟩
    · rintro ⟨notScript, bound, word, resolved, path⟩
      refine ⟨notScript, bound, ?_⟩
      rw [resolved]
      exact path

/-- Conditions of which those that give text have conjunctions, and the leaves among those are
legible. -/
def Legible (f : Filter) (cs : List Condition) : Prop :=
  ∀ c ∈ Condition.nodes cs, f.Emitting c →
    c.conjunction.isSome ∧ (c.children = [] → f.LegibleLeaf c)

variable {f : Filter} {c : Condition} {cs ds : List Condition} {ts : List Term}

theorem Legible.of_cons (legible : f.Legible (c :: cs)) :
    (f.Emitting c → c.conjunction.isSome ∧ (c.children = [] → f.LegibleLeaf c)) ∧
      f.Legible c.children ∧ f.Legible cs := by
  rw [Legible, Condition.nodes_cons, List.cons_append, List.forall_mem_cons,
    List.forall_mem_append] at legible
  exact legible

/-- Conditions that are all as those with text have to be. -/
theorem legible_of_forall (all : ∀ c ∈ Condition.nodes cs,
    c.conjunction.isSome ∧ (c.children = [] → f.LegibleLeaf c)) : f.Legible cs :=
  fun c member _ => all c member

/-! ### Leaves -/

/-- What follows the column of a legible leaf is its operator and its right side. -/
theorem EmitsRest.text {operand : Operand} {b : Fragment}
    (bound : ∀ v, operand = .value v → inline? v = none) (emits : EmitsRest f c operand b) :
    ∃ right, f.rightSide? c operand = some right ∧ b.sql = c.predicate.sql ++ right.text ∧
      right.Worded ∧ right.shape = c.predicate.shape := by
  cases emits with
  | @members operand vs list shape are written =>
    obtain ⟨pieces, each, text⟩ := Dialect.sql_memberList written
    refine ⟨.items (pieces.map Piece.sql), ?_, ?_, ?_, shape.symm⟩
    · have values : (Filter.members c operand).toOption = some vs := by
        rw [are]
        rfl
      have texts : ((vs.filter fun v => !v.isNull).mapM f.dialect.member).toOption = some pieces := by
        rw [each]
        rfl
      simp [rightSide?, shape, values, texts]
    · rw [Fragment.sql_cons, Fragment.sql_cons, text, RightSide.text_items]
      rfl
    · intro t member
      obtain ⟨piece, isPiece, rfl⟩ := List.mem_map.mp member
      exact Outcome.forall_of_mapM each (fun v _ piece ok => Dialect.isWord_member ok) piece isPiece
  | range shape =>
    have word : c.predicate.sql = "BETWEEN" := by
      generalize c.predicate = p at shape ⊢
      cases p with
      | between => rfl
      | _ => cases shape
    refine ⟨.pair, ?_, ?_, trivial, shape.symm⟩
    · simp only [rightSide?, shape]
    · rw [word]
      rfl
  | expression shape inlined resolved =>
    -- an expression would stand in the text as it is, and could hold anything
    rw [bound _ rfl] at inlined
    cases inlined
  | value shape isBound =>
    refine ⟨.placeholder, ?_, ?_, trivial, shape.symm⟩
    · simp only [rightSide?, shape]
    · rw [RightSide.text]
      simp [Piece.sql]

/-- The body of a legible leaf has the text of the leaf's skeleton. -/
theorem Emits.text {b : Fragment} (legible : f.LegibleLeaf c) (emits : f.Emits c b) :
    ∃ k, f.leafSkeleton c = some k ∧ b.sql = k.text ∧ k.Proper := by
  obtain ⟨word, resolves, path⟩ := legible.column
  rw [Condition.subject] at resolves
  cases emits with
  | script shape resolved given =>
    refine absurd ?_ legible.notScript
    generalize c.predicate = p at shape ⊢
    cases p with
    | script => rfl
    | _ => cases shape
  | @nullCheck sql shape given resolved =>
    rw [if_pos shape, resolved] at resolves
    obtain rfl : sql = word := Except.ok.inj resolves
    refine ⟨.leaf sql c.predicate .nothing, ?_, ?_, ?_⟩
    · simp only [leafSkeleton, shape, given, resolved]
      rfl
    · rw [Skeleton.text, RightSide.text]
      simp [Piece.sql]
    · rw [Skeleton.Proper]
      exact ⟨Text.isWord_of_isPath path, trivial, shape.symm⟩
  | @comparison operand key rest shape given present some resolved follows =>
    -- the key is the subject: only a null check has another one
    have other : c.predicate.shape ≠ .nullCheck := by
      intro same
      rw [same] at shape
      cases shape
    rw [if_neg other, resolved] at resolves
    obtain rfl : key = word := Except.ok.inj resolves
    have bound : ∀ v, operand = .value v → inline? v = none := by
      rintro v rfl
      have none := legible.bound
      rw [Condition.expression?, given] at none
      exact none
    obtain ⟨right, is, text, worded, goes⟩ := follows.text bound
    refine ⟨.leaf key c.predicate right, ?_, ?_, ?_⟩
    · unfold leafSkeleton
      cases kind : c.predicate.shape with
      | marker | script | nullCheck => rw [kind] at shape; cases shape
      | membership | between | single => simp [given, present, some, resolved, is, Except.toOption]
    · rw [Skeleton.text]
      simp [Piece.sql, text]
    · rw [Skeleton.Proper]
      exact ⟨Text.isWord_of_isPath path, worded, goes⟩

/-- A leaf without a body has no skeleton. -/
theorem leafSkeleton_of_none (skipped : f.leafBody c = .ok none) : f.leafSkeleton c = none := by
  cases kind : c.predicate.shape with
  | marker | script => simp only [leafSkeleton, kind]
  | nullCheck =>
    rw [leafBody_nullCheck kind, nullCheckBody] at skipped
    split at skipped
    · next blank => simp only [leafSkeleton, kind, if_pos blank]
    · obtain ⟨sql, -, skipped⟩ := Outcome.bind_eq_ok.mp skipped
      cases skipped
  | membership | between | single =>
    -- without an error, only an absent operand or a blank key leaves such a leaf without a body
    rw [leafBody_comparesKey (by rw [kind]; rfl), predicateBody] at skipped
    simp only [leafSkeleton, kind]
    cases given : c.operand with
    | none => rfl
    | some operand =>
      rw [given] at skipped
      dsimp only at skipped
      split at skipped
      · next absent => exact if_pos absent
      · obtain ⟨key, -, skipped⟩ := Outcome.bind_eq_ok.mp skipped
        obtain ⟨rest, -, skipped⟩ := Outcome.bind_eq_ok.mp skipped
        cases skipped

/-! ### Bodies and terms -/

/-- A body that reads as a proper skeleton. -/
structure Shows (b : Fragment) (k : Skeleton) : Prop where
  text : b.sql = k.text
  proper : k.Proper

/-- Terms that read as the conditions of a row. -/
inductive ShowsRow : List Term → Row → Prop where
  | nil : ShowsRow [] .nil
  | cons {t : Term} {ts : List Term} {k : Skeleton} {row : Row} (joined : t.conjunction.isSome)
    (body : Shows t.body k) (rest : ShowsRow ts row) :
    ShowsRow (t :: ts) (.cons t.conjunction k row)

theorem ShowsRow.proper {row : Row} (rows : ShowsRow ts row) : row.Proper := by
  induction rows with
  | nil => trivial
  | cons joined body rest ih => exact ⟨joined, body.proper, ih⟩

/-- Behind the first term, terms read as their row. -/
theorem ShowsRow.text {row : Row} (rows : ShowsRow ts row) :
    Fragment.sql (ts.flatMap fun u => .text " " :: Position.joining u.conjunction ++ u.body) =
      row.text := by
  induction rows with
  | nil => rfl
  | cons joined body rest ih =>
    rw [List.flatMap_cons, Fragment.sql_append, ih, Row.text, ← body.text, Fragment.sql_append,
      Fragment.sql_cons, sql_joining]
    simp only [Piece.sql, String.append_assoc]

/-- A group reads as the group of its row. -/
theorem ShowsRow.enclosed {row : Row} (rows : ShowsRow ts row) :
    Option.Rel Shows (Filter.enclosed ts) row.enclosed := by
  cases rows with
  | nil => exact .none
  | @cons t ts k row joined body rest =>
    refine .some ⟨?_, body.proper, rest.proper⟩
    rw [Fragment.sql_append, Fragment.sql_cons, Position.lay, Position.lead, List.nil_append,
      Fragment.sql_append, rest.text, body.text, String.append_assoc, Skeleton.text]
    rfl

theorem ShowsRow.prepend {b : Option Fragment} {k : Option Skeleton} {row : Row}
    {conjunction : Option Conjunction} (joined : b.isSome → conjunction.isSome)
    (body : Option.Rel Shows b k) (rest : ShowsRow ts row) :
    ShowsRow ((b.map (⟨conjunction, ·⟩)).toList ++ ts) (row.prepend conjunction k) := by
  cases body with
  | none => exact rest
  | some body => exact .cons (joined rfl) body rest

/-- A legible leaf reads as its skeleton, and it is silent exactly when it has none. -/
theorem shows_leafBody {b : Option Fragment} (legible : b.isSome → f.LegibleLeaf c)
    (ok : f.leafBody c = .ok b) : Option.Rel Shows b (f.leafSkeleton c) := by
  cases b with
  | none =>
    rw [leafSkeleton_of_none ok]
    exact .none
  | some b =>
    obtain ⟨k, is, text, proper⟩ := (leafBody_eq_some_iff.mp ok).text (legible rfl)
    rw [is]
    exact .some ⟨text, proper⟩

theorem skeletonOf_leaf (isLeaf : c.children = []) : f.skeletonOf c = f.leafSkeleton c := by
  obtain ⟨key, operand, predicate, conjunction, children⟩ := c
  obtain rfl : children = [] := isLeaf
  rw [skeletonOf]

theorem skeletonOf_group (isGroup : c.children ≠ []) :
    f.skeletonOf c = (f.row c.children).enclosed := by
  obtain ⟨key, operand, predicate, conjunction, children⟩ := c
  cases children with
  | nil => exact absurd rfl isGroup
  | cons d ds => rw [skeletonOf]

/-- The terms of legible conditions read as their row. -/
theorem shows_terms (legible : f.Legible cs) (ok : f.terms cs = .ok ts) :
    ShowsRow ts (f.row cs) := by
  induction cs using Condition.forest_induction generalizing ts with
  | nil =>
    rw [terms_nil] at ok
    rw [← Except.ok.inj ok, row]
    exact .nil
  | leaf c cs isLeaf ih =>
    obtain ⟨ofFirst, -, ofRest⟩ := legible.of_cons
    obtain ⟨b, us, body, rest, rfl⟩ := (terms_leaf isLeaf).mp ok
    -- what is asked of the first condition is asked only if it has a body
    have emits : b.isSome → f.Emitting c := by
      refine (emitting_iff_isSome ?_).mpr
      rw [body_leaf isLeaf, body]
      rfl
    rw [row, skeletonOf_leaf isLeaf]
    exact .prepend (fun given => (ofFirst (emits given)).1)
      (shows_leafBody (fun given => (ofFirst (emits given)).2 isLeaf) body) (ih ofRest rest)
  | group c cs isGroup inner ih =>
    obtain ⟨ofFirst, ofInner, ofRest⟩ := legible.of_cons
    obtain ⟨us, vs, children, rest, rfl⟩ := (terms_group isGroup).mp ok
    have emits : (enclosed us).isSome → f.Emitting c := by
      refine (emitting_iff_isSome ?_).mpr
      rw [body_group isGroup, children]
      rfl
    rw [row, skeletonOf_group isGroup]
    exact .prepend (fun given => (ofFirst (emits given)).1) (inner ofInner children).enclosed
      (ih ofRest rest)

/-! ### Texts and skeletons -/

/-- Legible conditions without text have no skeleton; the others have one, whose text is theirs in
parentheses. -/
theorem skeleton_of_render {g : Fragment} (legible : f.Legible cs)
    (ok : f.render .groupFirst cs = .ok g) :
    (g.sql = "" ∧ f.skeleton cs = none) ∨
      (g.sql ≠ "" ∧ ∃ k, f.skeleton cs = some k ∧ k.Proper ∧ k.text = "(" ++ (g.sql ++ ")")) := by
  obtain ⟨ts, terms, rfl⟩ := Outcome.map_eq_ok.mp ok
  have shown := (shows_terms legible terms).enclosed
  rw [← skeleton] at shown
  -- there is a skeleton exactly when there are terms
  cases ts with
  | nil =>
    left
    cases is : f.skeleton cs with
    | none => exact ⟨rfl, rfl⟩
    | some k =>
      rw [is] at shown
      cases shown
  | cons t ts =>
    right
    refine ⟨sql_lay_ne_empty terms .groupFirst, ?_⟩
    cases is : f.skeleton cs with
    | none =>
      rw [is] at shown
      cases shown
    | some k =>
      rw [is] at shown
      cases shown with
      | some shown =>
        refine ⟨k, rfl, shown.proper, ?_⟩
        rw [← shown.text, Fragment.sql_append, Fragment.sql_cons, String.append_assoc]
        rfl

/-- Take two lists of legible conditions that render inside a group. They have the same text exactly
when they have the same skeleton: the same groups, columns, operators, right sides and conjunctions,
the first conjunction of each list and the conditions without text left out. -/
theorem sql_eq_iff_skeleton_eq {g h : Fragment} (legible : f.Legible cs) (legible' : f.Legible ds)
    (ok : f.render .groupFirst cs = .ok g) (ok' : f.render .groupFirst ds = .ok h) :
    g.sql = h.sql ↔ f.skeleton cs = f.skeleton ds := by
  rcases skeleton_of_render legible ok with ⟨empty, is⟩ | ⟨given, k, is, proper, text⟩
  · rcases skeleton_of_render legible' ok' with ⟨empty', is'⟩ | ⟨given', l, is', -, -⟩
    · exact iff_of_true (empty.trans empty'.symm) (is.trans is'.symm)
    · rw [empty, is, is']
      exact iff_of_false given'.symm nofun
  · rcases skeleton_of_render legible' ok' with ⟨empty', is'⟩ | ⟨given', l, is', proper', text'⟩
    · rw [empty', is, is']
      exact iff_of_false given nofun
    · rw [is, is', Option.some_inj]
      constructor
      -- in parentheses, the two texts are those of proper groups
      · intro same
        rw [same, ← text'] at text
        exact Skeleton.eq_of_text proper proper' text
      · rintro rfl
        rw [text, String.append_right_inj, String.append_left_inj] at text'
        exact text'

end Filter

namespace Directory

/-- Conditions on users. -/
def filter : Filter := ⟨⟨catalog, user, .empty⟩, .mysql⟩

/-- A name, or one of some ages or no name. -/
def named : List Condition := [
  .withValue .eq "name" (.text "Ann"),
  (Condition.group [.oneOf "age" [.int 3, .null, .text "4"],
    (Condition.isNull "name").joinedBy (some .or)]).joinedBy (some .or)]

/-- Such conditions with other values, other conjunctions in front and members without text. -/
def renamed : List Condition := [
  .on "age" .lt none,
  (Condition.withValue .eq "name" (.constant "BOB")).joinedBy (some .or),
  (Condition.group [.group [.on "name" .oneOf none],
    (Condition.oneOf "age" [.int 3, .text "30"]).joinedBy (some .or),
    (Condition.isNull "name").joinedBy (some .or)]).joinedBy (some .or)]

end Directory

/-- Conditions on users that read the same differ only in what gives no text: they have one
skeleton. -/
theorem Filter.skeleton_renamed :
    Directory.filter.Legible Directory.named ∧ Directory.filter.Legible Directory.renamed ∧
      ∃ g h, Directory.filter.render .groupFirst Directory.named = .ok g ∧
        Directory.filter.render .groupFirst Directory.renamed = .ok h ∧
        g.sql = "user_name = ? OR (age IN (3, ?) OR user_name IS NULL)" ∧ g.sql = h.sql ∧
        Directory.filter.skeleton Directory.named = Directory.filter.skeleton Directory.renamed := by
  have legible : Directory.filter.Legible Directory.named :=
    legible_of_forall (by decide +kernel)
  have legible' : Directory.filter.Legible Directory.renamed :=
    legible_of_forall (by decide +kernel)
  have text : ((Directory.filter.render .groupFirst Directory.named).toOption.map Fragment.sql) =
      some "user_name = ? OR (age IN (3, ?) OR user_name IS NULL)" := by decide +kernel
  have text' : ((Directory.filter.render .groupFirst Directory.renamed).toOption.map Fragment.sql) =
      some "user_name = ? OR (age IN (3, ?) OR user_name IS NULL)" := by decide +kernel
  obtain ⟨g, ok⟩ := Outcome.exists_of_isOk
    (x := Directory.filter.render .groupFirst Directory.named) (by decide +kernel)
  obtain ⟨h, ok'⟩ := Outcome.exists_of_isOk
    (x := Directory.filter.render .groupFirst Directory.renamed) (by decide +kernel)
  rw [ok] at text
  rw [ok'] at text'
  have reads : g.sql = h.sql := Option.some.inj (text.trans text'.symm)
  exact ⟨legible, legible', g, h, ok, ok', Option.some.inj text, reads,
    (sql_eq_iff_skeleton_eq legible legible' ok ok').mp reads⟩

end BoundQuery
