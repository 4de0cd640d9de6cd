import BoundQuery.Proofs.Leaves
import BoundQuery.Proofs.Lexemes
import BoundQuery.Proofs.Positions

/-!
# Skeletons of conditions

The skeleton of conditions is what their text shows: columns, operators, what stands on the right of
them, conjunctions and groups. No two skeletons have the same text, since none have the same
lexemes. Each leaf ends where its operator and its right side say, and each group at its
parenthesis, so both are read off from the front; a row goes on as long as a conjunction follows.

## Main definitions

* `Skeleton`, `Row`, a leaf or a group, and what follows the first item of a list
* `Skeleton.text`, `Skeleton.lexemes`, the text of a skeleton and its lexemes
* `Skeleton.Proper`, columns of one word, right sides that go with their operators, and conjunctions
  between items

## Main results

* `Skeleton.lexemes_text` — the text of a proper skeleton has its lexemes
* `Predicate.lexemes_prefixFree` — no operator starts like another
* `Skeleton.eq_of_lexemes_append` — a proper skeleton is read off from the front of its lexemes
* `Skeleton.eq_of_text` — so its text tells it
-/

namespace BoundQuery

/-- What stands on the right of an operator. -/
inductive RightSide where
  | nothing
  | placeholder
  /-- The two ends of a range. -/
  | pair
  /-- The members of a list, as they are written. -/
  | items (texts : List String)
  deriving DecidableEq

mutual

/-- What the text of a condition shows. -/
inductive Skeleton where
  | leaf (column : String) (operator : Predicate) (right : RightSide)
  /-- The first condition of a group has no conjunction. -/
  | group (first : Skeleton) (others : Row)

/-- The conditions behind the first one of a list, each with its conjunction. -/
inductive Row where
  | nil
  | cons (conjunction : Option Conjunction) (item : Skeleton) (rest : Row)

end

/-! ### Texts and lexemes -/

namespace RightSide

/-- A right side as text, with the blank in front of it. -/
def text : RightSide → String
  | .nothing => ""
  | .placeholder => " ?"
  | .pair => " ? AND ?"
  | .items texts => " (" ++ Text.joinWith ", " texts ++ ")"

/-- The members of a list with commas between them. -/
def itemLexemes : List String → List Lexeme
  | [] => []
  | t :: ts => .word t.toList :: ts.flatMap fun u => [.sign ',', .word u.toList]

/-- The lexemes of a right side. -/
def lexemes : RightSide → List Lexeme
  | .nothing => []
  | .placeholder => [.word ['?']]
  | .pair => [.word ['?'], .word ['A', 'N', 'D'], .word ['?']]
  | .items texts => .sign '(' :: itemLexemes texts ++ [.sign ')']

/-- The shape of the operators that a right side goes with. -/
def shape : RightSide → Predicate.Shape
  | .nothing => .nullCheck
  | .placeholder => .single
  | .pair => .between
  | .items _ => .membership

/-- The members of a list are words. -/
def Worded : RightSide → Prop
  | .items texts => ∀ t ∈ texts, Text.isWord t
  | _ => True

end RightSide

/-- The lexemes of an operator. -/
def Predicate.lexemes (p : Predicate) : List Lexeme :=
  Text.lexemes p.sql

/-- The lexemes of a conjunction, if there is one. -/
def Conjunction.lexemes : Option Conjunction → List Lexeme
  | none => []
  | some c => [.word c.sql.toList]

mutual

/-- A skeleton as text. -/
def Skeleton.text : Skeleton → String
  | .leaf column operator right => column ++ (" " ++ (operator.sql ++ right.text))
  | .group first others => "(" ++ (first.text ++ others.text ++ ")")

/-- A row as text, with a blank in front of each condition. -/
def Row.text : Row → String
  | .nil => ""
  | .cons conjunction item rest =>
    " " ++ (Conjunction.leading conjunction ++ item.text) ++ rest.text

end

mutual

/-- The lexemes of a skeleton. -/
def Skeleton.lexemes : Skeleton → List Lexeme
  | .leaf column operator right => .word column.toList :: (operator.lexemes ++ right.lexemes)
  | .group first others => .sign '(' :: (first.lexemes ++ others.lexemes ++ [.sign ')'])

/-- The lexemes of a row. -/
def Row.lexemes : Row → List Lexeme
  | .nil => []
  | .cons conjunction item rest =>
    Conjunction.lexemes conjunction ++ (item.lexemes ++ rest.lexemes)

end

mutual

/-- Columns and members are words, each right side goes with its operator, and each condition behind
the first one of its list has a conjunction. -/
def Skeleton.Proper : Skeleton → Prop
  | .leaf column operator right =>
    Text.isWord column ∧ right.Worded ∧ right.shape = operator.shape
  | .group first others => first.Proper ∧ others.Proper

/-- The same of the conditions of a row. -/
def Row.Proper : Row → Prop
  | .nil => True
  | .cons conjunction item rest => conjunction.isSome ∧ item.Proper ∧ rest.Proper

end

/-! ### The lexemes of texts -/

namespace RightSide

/-- Words in a row with commas between them. -/
theorem lexemes_joinWith {texts : List String} (words : ∀ t ∈ texts, Text.isWord t) :
    Text.lexemes (Text.joinWith ", " texts) = itemLexemes texts := by
  fun_induction Text.joinWith ", " texts with
  | case1 => rfl
  | case2 t => exact Text.lexemes_of_isWord (words t List.mem_cons_self)
  | case3 t rest more ih =>
    rw [List.forall_mem_cons] at words
    rw [String.append_assoc, Text.lexemes_comma, Text.lexemes_of_isWord words.1, ih words.2]
    cases rest with
    | nil => exact absurd rfl more
    | cons u us => rfl

theorem text_items (texts : List String) :
    text (.items texts) = " " ++ ("(" ++ (Text.joinWith ", " texts ++ ")")) := by
  have blank : " (" = " " ++ "(" := rfl
  rw [text, blank]
  simp only [String.append_assoc]

/-- What stands behind an operator has the lexemes of the right side. -/
theorem lexemes_text {right : RightSide} (words : right.Worded) (operator : String) :
    Text.lexemes (operator ++ right.text) = Text.lexemes operator ++ right.lexemes := by
  cases right with
  | nothing => rw [text, lexemes, String.append_empty, List.append_nil]
  | placeholder =>
    have rest : Text.lexemes "?" = lexemes .placeholder := by decide
    rw [← rest, ← Text.lexemes_blank]
    rfl
  | pair =>
    have rest : Text.lexemes "? AND ?" = lexemes .pair := by decide
    rw [← rest, ← Text.lexemes_blank]
    rfl
  | items texts =>
    rw [text_items, Text.lexemes_blank, Text.lexemes_open, Text.lexemes_close,
      lexemes_joinWith words]
    rfl

end RightSide

theorem Conjunction.lexemes_leading (c : Option Conjunction) (t : String) :
    Text.lexemes (leading c ++ t) = lexemes c ++ Text.lexemes t := by
  rcases c with _ | _ | _
  · rw [leading, lexemes, String.empty_append, List.nil_append]
  · have word : Text.lexemes "AND" = lexemes (some .and) := by decide
    rw [← word, ← Text.lexemes_blank]
    rfl
  · have word : Text.lexemes "OR" = lexemes (some .or) := by decide
    rw [← word, ← Text.lexemes_blank]
    rfl

mutual

/-- The text of a proper skeleton has its lexemes. -/
theorem Skeleton.lexemes_text : ∀ k : Skeleton, k.Proper → Text.lexemes k.text = k.lexemes
  | .leaf column operator right, proper => by
    rw [Skeleton.Proper] at proper
    rw [Skeleton.text, Text.lexemes_blank, Text.lexemes_of_isWord proper.1,
      RightSide.lexemes_text proper.2.1, Skeleton.lexemes]
    rfl
  | .group first others, proper => by
    rw [Skeleton.Proper] at proper
    rw [Skeleton.text, Text.lexemes_open, Text.lexemes_close,
      Row.lexemes_text others proper.2, Skeleton.lexemes_text first proper.1, Skeleton.lexemes]

/-- A row adds its lexemes to those of what stands before it. -/
theorem Row.lexemes_text : ∀ row : Row, row.Proper → ∀ {front : String},
    Text.lexemes (front ++ row.text) = Text.lexemes front ++ row.lexemes
  | .nil, _, front => by
    rw [Row.text, Row.lexemes, String.append_empty, List.append_nil]
  | .cons conjunction item rest, proper, front => by
    rw [Row.Proper] at proper
    rw [Row.text, ← String.append_assoc, Row.lexemes_text rest proper.2.2, Text.lexemes_blank,
      Conjunction.lexemes_leading, Skeleton.lexemes_text item proper.2.1, Row.lexemes]
    simp only [List.append_assoc]

end

/-! ### Operators -/

namespace Predicate

/-- Does the predicate stand between a column and a right side? -/
def isOperator (p : Predicate) : Bool :=
  p.shape ≠ .marker && p.shape ≠ .script

theorem mem_all (p : Predicate) : p ∈ all := by
  cases p <;> decide

/-- No operator starts like another. -/
theorem lexemes_prefixFree {p q : Predicate} (left : p.isOperator) (right : q.isOperator)
    (starts : p.lexemes <+: q.lexemes) : p = q := by
  have table : ∀ p ∈ all, ∀ q ∈ all, p.isOperator → q.isOperator →
      p.lexemes.isPrefixOf q.lexemes → p = q := by decide +kernel
  exact table p p.mem_all q q.mem_all left right (List.isPrefixOf_iff_prefix.mpr starts)

/-- An operator is read off from the front of its lexemes. -/
theorem eq_of_lexemes_append {p q : Predicate} {r s : List Lexeme} (left : p.isOperator)
    (right : q.isOperator) (same : p.lexemes ++ r = q.lexemes ++ s) : p = q ∧ r = s := by
  -- both start the same list, so one of them starts the other
  have ofP : p.lexemes <+: q.lexemes ++ s := ⟨r, same⟩
  have ofQ : q.lexemes <+: q.lexemes ++ s := List.prefix_append _ _
  have eq : p = q := by
    rcases List.prefix_or_prefix_of_prefix ofP ofQ with starts | starts
    · exact lexemes_prefixFree left right starts
    · exact (lexemes_prefixFree right left starts).symm
  rw [eq] at same
  exact ⟨eq, List.append_cancel_left same⟩

end Predicate

theorem RightSide.isOperator_of_shape {right : RightSide} {p : Predicate}
    (goes : right.shape = p.shape) : p.isOperator := by
  rw [Predicate.isOperator, ← goes]
  cases right with
  | nothing | placeholder | pair | items => rfl

/-! ### Right sides -/

namespace RightSide

/-- Members behind commas are read off up to the closing parenthesis. -/
theorem eq_of_flatMap_append {ts us : List String} {r s : List Lexeme}
    (same : (ts.flatMap fun t => [Lexeme.sign ',', .word t.toList]) ++ .sign ')' :: r =
      (us.flatMap fun t => [Lexeme.sign ',', .word t.toList]) ++ .sign ')' :: s) :
    ts = us ∧ r = s := by
  induction ts generalizing us with
  | nil =>
    cases us with
    | nil => simpa using same
    | cons u us => simp at same
  | cons t ts ih =>
    cases us with
    | nil => simp at same
    | cons u us =>
      simp only [List.flatMap_cons, List.cons_append, List.nil_append, List.cons.injEq,
        Lexeme.word.injEq, String.toList_inj, true_and] at same
      obtain ⟨rfl, rest⟩ := ih same.2
      exact ⟨by rw [same.1], rest⟩

theorem eq_of_itemLexemes_append {ts us : List String} {r s : List Lexeme}
    (same : itemLexemes ts ++ .sign ')' :: r = itemLexemes us ++ .sign ')' :: s) :
    ts = us ∧ r = s := by
  cases ts with
  | nil =>
    cases us with
    | nil => simpa [itemLexemes] using same
    | cons u us => simp [itemLexemes] at same
  | cons t ts =>
    cases us with
    | nil => simp [itemLexemes] at same
    | cons u us =>
      simp only [itemLexemes, List.cons_append, List.cons.injEq, Lexeme.word.injEq,
        String.toList_inj] at same
      obtain ⟨rfl, rest⟩ := eq_of_flatMap_append same.2
      exact ⟨by rw [same.1], rest⟩

/-- Behind a given operator, the right side is read off from the front of its lexemes. -/
theorem eq_of_lexemes_append {a b : RightSide} {r s : List Lexeme} (shapes : a.shape = b.shape)
    (same : a.lexemes ++ r = b.lexemes ++ s) : a = b ∧ r = s := by
  cases a with
  | nothing =>
    cases b with
    | nothing => exact ⟨rfl, same⟩
    | placeholder | pair | items => cases shapes
  | placeholder =>
    cases b with
    | placeholder => exact ⟨rfl, List.append_cancel_left same⟩
    | nothing | pair | items => cases shapes
  | pair =>
    cases b with
    | pair => exact ⟨rfl, List.append_cancel_left same⟩
    | nothing | placeholder | items => cases shapes
  | items ts =>
    cases b with
    | items us =>
      simp only [lexemes, List.cons_append, List.append_assoc, List.nil_append, List.cons.injEq,
        true_and] at same
      obtain ⟨rfl, rest⟩ := eq_of_itemLexemes_append same
      exact ⟨rfl, rest⟩
    | nothing | placeholder | pair => cases shapes

end RightSide

theorem Conjunction.sql_toList_inj {c d : Conjunction} (same : c.sql.toList = d.sql.toList) :
    c = d := by
  cases c with
  | and =>
    cases d with
    | and => rfl
    | or => exact absurd same (by decide)
  | or =>
    cases d with
    | and => exact absurd same (by decide)
    | or => rfl

/-! ### Skeletons -/

/-- No conjunction stands in front, so no row goes on here. -/
def EndsRow (r : List Lexeme) : Prop :=
  ∀ c : Conjunction, r.head? ≠ some (.word c.sql.toList)

theorem endsRow_sign (c : Char) (r : List Lexeme) : EndsRow (.sign c :: r) :=
  fun _ same => by cases same

mutual

/-- A proper skeleton is read off from the front of its lexemes. -/
theorem Skeleton.eq_of_lexemes_append : ∀ (k l : Skeleton) {r s : List Lexeme}, k.Proper → l.Proper →
    k.lexemes ++ r = l.lexemes ++ s → k = l ∧ r = s
  | .leaf column p right, .leaf column' q right', r, s, proper, proper', same => by
    rw [Skeleton.Proper] at proper proper'
    simp only [Skeleton.lexemes, List.cons_append, List.append_assoc, List.cons.injEq,
      Lexeme.word.injEq, String.toList_inj] at same
    obtain ⟨rfl, behindColumn⟩ := same
    obtain ⟨-, -, goes⟩ := proper
    obtain ⟨-, -, goes'⟩ := proper'
    -- first the operator, which tells what can stand on its right
    obtain ⟨rfl, behindOperator⟩ := Predicate.eq_of_lexemes_append
      (RightSide.isOperator_of_shape goes) (RightSide.isOperator_of_shape goes') behindColumn
    obtain ⟨rfl, rest⟩ := RightSide.eq_of_lexemes_append (goes.trans goes'.symm) behindOperator
    exact ⟨rfl, rest⟩
  | .leaf .., .group .., r, s, _, _, same => by
    simp [Skeleton.lexemes] at same
  | .group .., .leaf .., r, s, _, _, same => by
    simp [Skeleton.lexemes] at same
  | .group first others, .group first' others', r, s, proper, proper', same => by
    rw [Skeleton.Proper] at proper proper'
    simp only [Skeleton.lexemes, List.cons_append, List.append_assoc, List.nil_append,
      List.cons.injEq, true_and] at same
    obtain ⟨rfl, behindFirst⟩ := Skeleton.eq_of_lexemes_append first first' proper.1 proper'.1 same
    -- the row ends at the parenthesis
    obtain ⟨rfl, closing⟩ := Row.eq_of_lexemes_append others others' proper.2 proper'.2
      (endsRow_sign ')' r) (endsRow_sign ')' s) behindFirst
    exact ⟨rfl, (List.cons.inj closing).2⟩

/-- A proper row is read off from the front of its lexemes, when no conjunction follows it. -/
theorem Row.eq_of_lexemes_append : ∀ (a b : Row) {r s : List Lexeme}, a.Proper → b.Proper →
    EndsRow r → EndsRow s → a.lexemes ++ r = b.lexemes ++ s → a = b ∧ r = s
  | .nil, .nil, r, s, _, _, _, _, same => by
    rw [Row.lexemes] at same
    exact ⟨rfl, same⟩
  | .nil, .cons c item rest, r, s, _, proper, ends, _, same => by
    rw [Row.Proper] at proper
    obtain ⟨d, rfl⟩ := Option.isSome_iff_exists.mp proper.1
    rw [Row.lexemes, Row.lexemes, Conjunction.lexemes, List.nil_append] at same
    -- the other row goes on with a conjunction, which cannot stand behind this one
    exact absurd (by rw [same]; rfl) (ends d)
  | .cons c item rest, .nil, r, s, proper, _, _, ends, same => by
    rw [Row.Proper] at proper
    obtain ⟨d, rfl⟩ := Option.isSome_iff_exists.mp proper.1
    rw [Row.lexemes, Row.lexemes, Conjunction.lexemes, List.nil_append] at same
    exact absurd (by rw [← same]; rfl) (ends d)
  | .cons c item rest, .cons c' item' rest', r, s, proper, proper', ends, ends', same => by
    rw [Row.Proper] at proper proper'
    obtain ⟨d, rfl⟩ := Option.isSome_iff_exists.mp proper.1
    obtain ⟨d', rfl⟩ := Option.isSome_iff_exists.mp proper'.1
    simp only [Row.lexemes, Conjunction.lexemes, List.cons_append, List.append_assoc,
      List.nil_append, List.cons.injEq, Lexeme.word.injEq] at same
    obtain ⟨word, behindWord⟩ := same
    obtain rfl := Conjunction.sql_toList_inj word
    obtain ⟨rfl, behindItem⟩ :=
      Skeleton.eq_of_lexemes_append item item' proper.2.1 proper'.2.1 behindWord
    obtain ⟨rfl, behindRow⟩ :=
      Row.eq_of_lexemes_append rest rest' proper.2.2 proper'.2.2 ends ends' behindItem
    exact ⟨rfl, behindRow⟩

end

/-- Proper skeletons with the same text are the same. -/
theorem Skeleton.eq_of_text {k l : Skeleton} (proper : k.Proper) (proper' : l.Proper)
    (same : k.text = l.text) : k = l := by
  have lexemes : k.lexemes ++ [] = l.lexemes ++ [] := by
    rw [← k.lexemes_text proper, ← l.lexemes_text proper', same]
  exact (Skeleton.eq_of_lexemes_append k l proper proper' lexemes).1

end BoundQuery
