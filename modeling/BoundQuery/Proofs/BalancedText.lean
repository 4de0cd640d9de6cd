import BoundQuery.Proofs.Fitting
import BoundQuery.Proofs.LegibleConditions

/-!
# Balanced parentheses

Resolution cuts a token at its last opening parenthesis and at the punctuation behind it, so a token
by itself may open more than it closes. But no parenthesis is moved: a resolved script has those of
the script, in order. Rendering adds parentheses in pairs only, around groups and lists. So where
the texts of conditions are balanced, the conditions are rendered to balanced text, however deep
their groups are.

## Main definitions

* `Text.Balanced`, texts that close what they open
* `Text.depth`, the scan that counts open parentheses
* `Condition.Balanced`, conditions with balanced texts

## Main results

* `Text.balanced_iff` — a text is balanced exactly when the scan ends where it started
* `Filter.balanced_terms` — balanced leaves give balanced terms
* `Filter.balanced_render` — scripts keep their parentheses, and conditions render to balanced text
-/

namespace BoundQuery

namespace Text

/-- Is the character a parenthesis? -/
def isParen (c : Char) : Bool :=
  c == '(' || c == ')'

/-- A text no start of which closes more parentheses than it opens, and that closes all of them. -/
structure Balanced (s : String) : Prop where
  starts : ∀ cs, cs <+: s.toList → cs.count ')' ≤ cs.count '('
  closes : s.toList.count ')' = s.toList.count '('

/-- The number of parentheses that are open behind the characters when `d` are open before them.
There is none when the characters close one that is not open. -/
def depth (d : Nat) : List Char → Option Nat
  | [] => some d
  | c :: cs =>
    if c = '(' then depth (d + 1) cs
    else if c = ')' then
      match d with
      | 0 => none
      | d + 1 => depth d cs
    else depth d cs

theorem markClass_isParen : MarkClass isParen :=
  (MarkClass.single (c := '(') (by decide) (by decide) (by decide)).or
    (MarkClass.single (c := ')') (by decide) (by decide) (by decide))

/-! ### The scan -/

variable {s t : String} {cs ds : List Char} {d e : Nat}

theorem depth_open : depth d ('(' :: cs) = depth (d + 1) cs := by
  rw [depth.eq_def]
  rfl

theorem depth_close : depth (d + 1) (')' :: cs) = depth d cs := by
  rw [depth.eq_def]
  rfl

theorem depth_other {c : Char} (other : isParen c = false) : depth d (c :: cs) = depth d cs := by
  rw [isParen, Bool.or_eq_false_iff, beq_eq_false_iff_ne, beq_eq_false_iff_ne] at other
  rw [depth.eq_def]
  simp only [if_neg other.1, if_neg other.2]

/-- What holds of all starts of a text with one character more in front. -/
theorem forall_start_cons {P : List Char → Prop} {c : Char} :
    (∀ us, us <+: c :: cs → P us) ↔ P [] ∧ ∀ us, us <+: cs → P (c :: us) := by
  constructor
  · intro all
    exact ⟨all [] List.nil_prefix, fun us start => all _ (List.cons_prefix_cons.mpr ⟨rfl, start⟩)⟩
  · rintro ⟨empty, others⟩ us start
    rcases List.prefix_cons_iff.mp start with rfl | ⟨vs, rfl, rest⟩
    · exact empty
    · exact others vs rest

/-- The scan gets through exactly when no start closes more than is open, and then counts what is
left open. -/
theorem depth_eq_some_iff : depth d cs = some e ↔
    (∀ us, us <+: cs → us.count ')' ≤ d + us.count '(') ∧ cs.count ')' + e = d + cs.count '(' := by
  -- `d` varies, since each parenthesis changes what is open for the rest
  induction cs generalizing d with
  | nil =>
    simp only [depth, Option.some.injEq, List.prefix_nil, forall_eq, List.count_nil]
    omega
  | cons c cs ih =>
    rw [forall_start_cons]
    by_cases opens : c = '('
    · subst opens
      have close : ∀ us : List Char, ('(' :: us).count ')' = us.count ')' := fun us =>
        List.count_cons_of_ne (by decide)
      rw [depth_open, ih]
      simp only [close, List.count_cons_self, List.count_nil]
      grind
    · by_cases closes : c = ')'
      · subst closes
        have opening : ∀ us : List Char, (')' :: us).count '(' = us.count '(' := fun us =>
          List.count_cons_of_ne (by decide)
        simp only [opening, List.count_cons_self, List.count_nil]
        cases d with
        | zero =>
          -- nothing is open, so the first character closes too much
          have none : depth 0 (')' :: cs) = none := rfl
          rw [none]
          constructor
          · intro impossible
            cases impossible
          · rintro ⟨⟨-, all⟩, -⟩
            have first := all [] List.nil_prefix
            simp at first
        | succ d =>
          rw [depth_close, ih]
          grind
      · have other : isParen c = false := by simp [isParen, opens, closes]
        have opening : ∀ us : List Char, (c :: us).count '(' = us.count '(' := fun us =>
          List.count_cons_of_ne opens
        have closing : ∀ us : List Char, (c :: us).count ')' = us.count ')' := fun us =>
          List.count_cons_of_ne closes
        rw [depth_other other, ih]
        simp only [opening, closing, List.count_nil]
        grind

/-- A text is balanced exactly when the scan ends where it started. -/
theorem balanced_iff : Balanced s ↔ depth 0 s.toList = some 0 := by
  rw [depth_eq_some_iff]
  simp only [Nat.zero_add, Nat.add_zero]
  exact ⟨fun balanced => ⟨balanced.starts, balanced.closes⟩, fun both => ⟨both.1, both.2⟩⟩

instance : DecidablePred Balanced := fun _ =>
  decidable_of_iff _ balanced_iff.symm

theorem depth_append (d : Nat) (cs ds : List Char) :
    depth d (cs ++ ds) = (depth d cs).bind fun e => depth e ds := by
  fun_induction depth d cs with
  | case1 d => rfl
  | case2 d cs ih => rw [List.cons_append, depth_open, ih]
  | case3 cs _ => rfl
  | case4 cs d _ ih => rw [List.cons_append, depth_close, ih]
  | case5 d c cs opens closes ih =>
    have other : isParen c = false := by simp [isParen, opens, closes]
    rw [List.cons_append, depth_other other, ih]

/-- Parentheses that are open before stay open. -/
theorem depth_add (k : Nat) (scan : depth d cs = some e) : depth (d + k) cs = some (e + k) := by
  rw [depth_eq_some_iff] at scan ⊢
  obtain ⟨starts, total⟩ := scan
  refine ⟨fun us start => ?_, by omega⟩
  have below := starts us start
  omega

/-- The scan looks at parentheses only. -/
theorem depth_filter (d : Nat) (cs : List Char) : depth d (cs.filter isParen) = depth d cs := by
  fun_induction depth d cs with
  | case1 d => rfl
  | case2 d cs ih => rw [List.filter_cons_of_pos (by decide), depth_open, ih]
  | case3 cs _ => rw [List.filter_cons_of_pos (by decide)]; rfl
  | case4 cs d _ ih => rw [List.filter_cons_of_pos (by decide), depth_close, ih]
  | case5 d c cs opens closes ih =>
    have other : isParen c = false := by simp [isParen, opens, closes]
    rw [List.filter_cons_of_neg (by simp [other]), ih]

/-! ### Balanced texts -/

/-- Whether a text is balanced is seen from its parentheses. -/
theorem balanced_iff_of_marks (same : marks isParen s = marks isParen t) :
    Balanced s ↔ Balanced t := by
  rw [balanced_iff, balanced_iff, ← depth_filter, ← depth_filter 0 t.toList]
  exact iff_of_eq (congrArg (depth 0 · = some 0) same)

theorem balanced_of_marks (free : marks isParen s = []) : Balanced s := by
  rw [balanced_iff, ← depth_filter]
  exact congrArg (depth 0) free

theorem Balanced.append (left : Balanced s) (right : Balanced t) : Balanced (s ++ t) := by
  rw [balanced_iff] at left right ⊢
  rw [String.toList_append, depth_append, left]
  exact right

/-- A pair of parentheses around a balanced text. -/
theorem Balanced.enclosed (inner : Balanced s) : Balanced ("(" ++ (s ++ ")")) := by
  rw [balanced_iff] at inner ⊢
  have opened : depth 1 s.toList = some 1 := depth_add 1 inner
  have chars : ("(" ++ (s ++ ")")).toList = '(' :: (s.toList ++ [')']) := by simp
  rw [chars, depth_open, depth_append, opened]
  rfl

end Text

open Text Fragment

/-! ### Leaves -/

/-- The key of the condition is balanced, and so are the expression between the marks of its operand
and the text that a null check checks. -/
structure Condition.Balanced (c : Condition) : Prop where
  key : Text.Balanced c.key
  expression : ∀ e, c.expression? = some e → Text.Balanced e
  checked : c.predicate.shape = .nullCheck → ∀ t, c.scalar? = some (.text t) → Text.Balanced t

theorem Predicate.balanced_sql {p : Predicate} (worded : p.shape ≠ .marker) : Balanced p.sql := by
  cases p with
  | group | groupBegin | groupEnd => exact absurd rfl worded
  | _ => exact balanced_of_marks rfl

theorem Conjunction.balanced_joining (c : Option Conjunction) :
    Balanced (Fragment.sql (Position.joining c)) := by
  cases c with
  | none => exact balanced_of_marks rfl
  | some c => cases c <;> exact balanced_of_marks rfl

/-- A member of a list is a number, a truth value or a placeholder. -/
theorem Dialect.marks_member {d : Dialect} {v : Value} {piece : Piece}
    (ok : d.member v = .ok piece) : marks isParen piece.sql = [] := by
  rw [member] at ok
  split at ok
  · next safe =>
    obtain ⟨text, written, rfl⟩ := Outcome.map_eq_ok.mp ok
    refine marks_eq_nil_iff.mpr fun c inText => ?_
    have figure := LiteralStyle.figures_literal safe written c inText
    rw [Bool.eq_false_iff]
    intro paren
    rw [isParen, Bool.or_eq_true, beq_iff_eq, beq_iff_eq] at paren
    rcases paren with rfl | rfl
    · cases figure
    · cases figure
  · rw [← Except.ok.inj ok, Piece.sql]
    rfl

theorem Dialect.balanced_memberList {d : Dialect} {vs : List Value} {list : Fragment}
    (ok : d.memberList vs = .ok list) : Balanced list.sql := by
  obtain ⟨pieces, each, text⟩ := sql_memberList ok
  rw [text]
  refine Balanced.enclosed (balanced_of_marks (marks_joinWith_eq_nil rfl ?_))
  intro item member
  obtain ⟨piece, isPiece, rfl⟩ := List.mem_map.mp member
  exact Outcome.forall_of_mapM each (fun v _ piece ok => marks_member ok) piece isPiece

/-- A resolved script is balanced where the script is. -/
theorem Scope.balanced_script {s : Scope} {script sql : String} (lacks : s.Lacks isParen)
    (balanced : Balanced script) (resolved : s.script script = .ok sql) : Balanced sql :=
  (balanced_iff_of_marks (lacks.marks_script markClass_isParen resolved)).mpr balanced

namespace Filter

variable {f : Filter} {c : Condition} {cs : List Condition} {ts : List Term} {b : Fragment}

theorem EmitsRest.balanced {operand : Operand} (lacks : f.scope.Lacks isParen)
    (balanced : c.Balanced) (compares : c.predicate.shape.comparesKey)
    (given : c.operand = some operand) (emits : EmitsRest f c operand b) : Balanced b.sql := by
  have operator : Balanced (c.predicate.sql ++ " ") := by
    refine (Predicate.balanced_sql fun marker => ?_).append (balanced_of_marks rfl)
    rw [marker] at compares
    cases compares
  have operand (right : String) : c.predicate.sql ++ (" " ++ right) =
      c.predicate.sql ++ " " ++ right := (String.append_assoc).symm
  cases emits with
  | members shape are written =>
    rw [sql_cons, sql_cons, Piece.sql, Piece.sql, operand]
    exact operator.append (Dialect.balanced_memberList written)
  | range shape =>
    simp only [sql_cons, sql_nil, Piece.sql]
    exact balanced_of_marks rfl
  | @expression v e sql shape inlined resolved =>
    -- the marks are gone, and what stood between them is a script
    have inner : Balanced e := by
      apply balanced.expression
      rw [Condition.expression?, given]
      exact inlined
    have right := Scope.balanced_script lacks inner resolved
    rw [sql_cons, sql_cons, sql_cons, sql_nil, Piece.sql, Piece.sql, Piece.sql, String.append_empty,
      operand]
    exact operator.append right
  | value shape isBound =>
    rw [sql_cons, sql_cons, sql_cons, sql_nil, Piece.sql, Piece.sql, Piece.sql, operand]
    exact operator.append (balanced_of_marks rfl)

/-- The body of a balanced leaf is balanced. -/
theorem Emits.balanced (lacks : f.scope.Lacks isParen) (balanced : c.Balanced)
    (emits : f.Emits c b) : Balanced b.sql := by
  have script {text sql : String} (inner : Balanced text)
      (resolved : f.scope.script text = .ok sql) : Balanced sql :=
    Scope.balanced_script lacks inner resolved
  cases emits with
  | script shape resolved some =>
    rw [sql_cons, sql_nil, Piece.sql, String.append_empty]
    exact script balanced.key resolved
  | nullCheck shape some resolved =>
    -- what is checked is the text of the operand, or else the key
    have subject : Balanced (checked c) := by
      rw [checked]
      split
      · next text given =>
        split
        · exact balanced.key
        · exact balanced.checked shape text given
      · exact balanced.key
    refine (script subject resolved).append ((balanced_of_marks rfl).append ?_)
    refine (Predicate.balanced_sql fun marker => ?_).append (balanced_of_marks rfl)
    rw [shape] at marker
    cases marker
  | comparison compares given present some resolved follows =>
    refine (script balanced.key resolved).append ((balanced_of_marks rfl).append ?_)
    exact follows.balanced lacks balanced compares given

/-! ### Forests -/

theorem balanced_lead (p : Position) (c : Option Conjunction) :
    Balanced (Fragment.sql (p.lead c)) := by
  cases p with
  | whereFirst =>
    rw [Position.lead]
    exact balanced_of_marks rfl
  | groupFirst => exact balanced_of_marks rfl
  | whereNext | groupNext | fragment => exact Conjunction.balanced_joining c

/-- Terms behind the first, each with its conjunction. -/
theorem balanced_joined (each : ∀ t ∈ ts, Balanced t.body.sql) :
    Balanced (Fragment.sql
      (ts.flatMap fun t => .text " " :: Position.joining t.conjunction ++ t.body)) := by
  induction ts with
  | nil => exact balanced_of_marks rfl
  | cons t ts ih =>
    rw [List.forall_mem_cons] at each
    rw [List.flatMap_cons, sql_append, sql_append, sql_cons]
    refine (Balanced.append ?_ each.1).append (ih each.2)
    exact (balanced_of_marks rfl).append (Conjunction.balanced_joining t.conjunction)

/-- Balanced terms in a row are balanced. -/
theorem balanced_lay (each : ∀ t ∈ ts, Balanced t.body.sql) (p : Position) :
    Balanced (p.lay ts).sql := by
  cases ts with
  | nil => exact balanced_of_marks rfl
  | cons t ts =>
    rw [List.forall_mem_cons] at each
    rw [Position.lay, sql_append, sql_append]
    exact ((balanced_lead p t.conjunction).append each.1).append (balanced_joined each.2)

/-- A group puts a pair of parentheses around its terms. -/
theorem balanced_enclosed (each : ∀ t ∈ ts, Balanced t.body.sql) (closed : enclosed ts = some b) :
    Balanced b.sql := by
  cases ts with
  | nil => cases closed
  | cons t ts =>
    rw [← Option.some.inj closed, sql_append, sql_cons, String.append_assoc]
    exact (balanced_lay each .groupFirst).enclosed

/-- Balanced leaves give balanced terms, in groups of any depth. -/
theorem balanced_terms (lacks : f.scope.Lacks isParen)
    (balanced : ∀ leaf ∈ Condition.leaves cs, leaf.Balanced) (ok : f.terms cs = .ok ts) :
    ∀ t ∈ ts, Balanced t.body.sql :=
  forall_terms (P := fun b => Balanced b.sql)
    (fun leaf member _ emits => emits.balanced lacks (balanced leaf member))
    (fun _ _ each closed => balanced_enclosed each closed) ok

/-- Parentheses stay balanced. Where no name of the catalog holds a parenthesis, every script that
resolves keeps the parentheses it has, in their order; and conditions whose leaves have balanced
keys, expressions and checked texts are rendered to balanced text, whatever the aliases are and at
every position. -/
theorem balanced_render (ofCatalog : f.scope.catalog.Lacks isParen)
    (ofEntity : f.scope.entity.Lacks isParen) :
    (∀ script sql, f.scope.script script = .ok sql → marks isParen sql = marks isParen script) ∧
    ∀ (p : Position) (cs : List Condition) (g : Fragment),
      (∀ leaf ∈ Condition.leaves cs, leaf.Balanced) → f.render p cs = .ok g → Balanced g.sql := by
  have lacks : f.scope.Lacks isParen := ⟨ofCatalog, ofEntity⟩
  constructor
  · intro script sql resolved
    exact lacks.marks_script markClass_isParen resolved
  · intro p cs g balanced ok
    obtain ⟨ts, terms, rfl⟩ := render_eq_ok.mp ok
    exact balanced_lay (balanced_terms lacks balanced terms) p

end Filter

namespace Directory

theorem lacks_user : user.Lacks isParen where
  name := by decide +kernel
  table := by decide +kernel
  properties := by decide +kernel

theorem lacks_catalog : catalog.Lacks isParen := by
  intro e member
  rw [List.mem_singleton.mp member]
  exact lacks_user

def aged : Condition :=
  .oneOf "age" [.int 3, .text "4"]

def unnamed : Condition :=
  .withValue .isNull "age" (.text "LOWER( name )")

/-- The call in the key is spread over two tokens, and neither is balanced. -/
def longer : Condition :=
  (Condition.withValue .gt "LENGTH(COALESCE(name, age))"
    (.text "#(age + (1))#")).joinedBy (some .or)

/-- Users of some ages and without a name, in a group inside a group, or with longer names. -/
def nested : List Condition :=
  [.group [.group [aged, unnamed]], longer]

theorem balanced_nested : ∀ leaf ∈ Condition.leaves nested, leaf.Balanced := by
  have leaves : Condition.leaves nested = [aged, unnamed, longer] := rfl
  rw [leaves]
  simp only [List.forall_mem_cons]
  refine ⟨⟨by decide +kernel, by decide +kernel, ?_⟩, ⟨by decide +kernel, by decide +kernel, ?_⟩,
    ⟨by decide +kernel, by decide +kernel, ?_⟩, ?_⟩
  · intro shape
    cases shape
  · intro _ t given
    obtain rfl : "LOWER( name )" = t := Value.text.inj (Option.some.inj given)
    decide +kernel
  · intro shape
    cases shape
  · intro leaf member
    cases member

end Directory

/-- Conditions on users with calls and with a group inside a group. -/
theorem Filter.balanced_render_nested :
    ¬ Balanced "LENGTH(COALESCE(name," ∧ ¬ Balanced "age))" ∧
    ∃ g, Directory.filter.render .whereFirst Directory.nested = .ok g ∧
      g.sql = "WHERE ((age IN (3, ?) AND LOWER( user_name ) IS NULL)) OR " ++
        "LENGTH(COALESCE(user_name, age)) > (age + (1))" ∧ Balanced g.sql := by
  have text : (Directory.filter.render .whereFirst Directory.nested).toOption.map Fragment.sql =
      some ("WHERE ((age IN (3, ?) AND LOWER( user_name ) IS NULL)) OR " ++
        "LENGTH(COALESCE(user_name, age)) > (age + (1))") := by decide +kernel
  obtain ⟨g, ok⟩ := Outcome.exists_of_isOk
    (x := Directory.filter.render .whereFirst Directory.nested) (by decide +kernel)
  rw [ok] at text
  obtain ⟨-, balanced⟩ := balanced_render (f := Directory.filter) Directory.lacks_catalog
    Directory.lacks_user
  exact ⟨by decide +kernel, by decide +kernel, g, ok, Option.some.inj text,
    balanced _ _ g Directory.balanced_nested ok⟩

end BoundQuery
