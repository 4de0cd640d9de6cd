import BoundQuery.Proofs.Placeholders
import BoundQuery.Statement.Dialect

/-!
# Written values

Numbers and dates are written with letters, digits and a few signs. Texts stand in quotes, where
escaping adds quotes, backslashes and letters only. So a written value holds no placeholder that
its texts do not hold.

## Main definitions

* `Text.Figures`, the characters of numbers
* `Value.texts`, the texts in a value

## Main results

* `LiteralStyle.figures_literal` — values that need no quotes are written in figures
* `LiteralStyle.free_literal` — a literal holds no placeholder unless the value's texts do
-/

namespace BoundQuery

namespace Text

/-- The characters of numbers and truth values. -/
def isFigure (c : Char) : Bool :=
  c.isAlphanum || c == '-' || c == '+' || c == '.'

/-- Characters that are all figures. -/
def Figures (cs : List Char) : Prop :=
  ∀ c ∈ cs, isFigure c

namespace Figures

variable {c : Char} {cs ds : List Char}

theorem nil : Figures [] :=
  fun _ member => absurd member List.not_mem_nil

theorem cons (first : isFigure c) (rest : Figures cs) : Figures (c :: cs) :=
  List.forall_mem_cons.mpr ⟨first, rest⟩

theorem append (left : Figures cs) (right : Figures ds) : Figures (cs ++ ds) :=
  List.forall_mem_append.mpr ⟨left, right⟩

theorem take (figures : Figures cs) (n : Nat) : Figures (cs.take n) :=
  fun c member => figures c (List.mem_of_mem_take member)

theorem drop (figures : Figures cs) (n : Nat) : Figures (cs.drop n) :=
  fun c member => figures c (List.mem_of_mem_drop member)

theorem zeros (n : Nat) : Figures (List.replicate n '0') := by
  intro c member
  rw [List.eq_of_mem_replicate member]
  rfl

theorem toDigits (n : Nat) : Figures (Nat.toDigits 10 n) := by
  intro c member
  have digit : c.isDigit := Nat.isDigit_of_mem_toDigits (by decide) (by decide) member
  simp [isFigure, Char.isAlphanum, digit]

end Figures

end Text

open Text

/-! ### Numbers -/

namespace NumberStyle

theorem figures_writePositional {digits : List Char} (figures : Figures digits) (pointZero : Bool)
    (exponent : Int) : Figures (writePositional pointZero digits exponent) := by
  rw [writePositional]
  split
  · refine (figures.append (.zeros _)).append ?_
    split
    · exact .cons rfl (.cons rfl .nil)
    · exact .nil
  · dsimp only
    split
    · exact (figures.take _).append (.cons rfl (figures.drop _))
    · exact (Figures.cons rfl (.cons rfl (.zeros _))).append figures

theorem figures_writeScientific {digits : List Char} (figures : Figures digits) (place : Int) :
    Figures (writeScientific digits place) := by
  unfold writeScientific
  refine Figures.append ?_ (.cons rfl (.cons ?_ (.toDigits _)))
  · -- the point stands behind the first digit, when there are others
    split
    · exact .nil
    · exact figures
    · rw [Figures, List.forall_mem_cons] at figures
      exact .cons figures.1 (.cons rfl figures.2)
  · split
    · rfl
    · rfl

/-- Numbers are written in figures. -/
theorem figures_write {style : NumberStyle} {negative : Bool} {significand : Nat} {exponent : Int} :
    Figures (style.write negative significand exponent).toList := by
  have body : Figures (if significand = 0 then writePositional style.pointZero ['0'] 0
      else
        let d := Decimal.shortest style.tie significand exponent
        let digits := Nat.toDigits 10 d.digits
        let place := (digits.length : Int) + d.exponent - 1
        if style.positional place then writePositional style.pointZero digits d.exponent
        else writeScientific digits place) := by
    split
    · exact figures_writePositional (.cons rfl .nil) _ _
    · dsimp only
      split
      · exact figures_writePositional (.toDigits _) _ _
      · exact figures_writeScientific (.toDigits _) _
  rw [write, String.toList_ofList]
  split
  · exact .cons rfl body
  · exact body

end NumberStyle

theorem Json.figures_intText {i : Int} : Figures (intText i).toList := by
  rw [intText, String.toList_ofList]
  split
  · exact .cons rfl (.toDigits _)
  · exact .toDigits _

namespace LiteralStyle

variable {style : LiteralStyle} {v : Value} {text : String}

/-- Values that need no quotes are written in figures. -/
theorem figures_literal (safe : Literal.isSafe v) (written : style.literal v = .ok text) :
    Figures text.toList := by
  cases v with
  | int i =>
    rw [← Except.ok.inj written]
    exact Json.figures_intText
  | bool b =>
    rw [← Except.ok.inj written]
    have all : (style.truth b).toList.all isFigure := by cases style <;> cases b <;> decide
    exact List.all_eq_true.mp all
  | float x =>
    cases x with
    | finite negative significand exponent =>
      rw [← Except.ok.inj written]
      exact NumberStyle.figures_write
    | nan => cases written
    | infinity negative => cases written
  | null | constant | moment | date | text | json => cases safe

end LiteralStyle

/-! ### Texts in values -/

mutual

/-- The texts in a document, names of members included. -/
def Json.texts : Json → List String
  | .str s => [s]
  | .arr items => itemTexts items
  | .obj members => memberTexts members
  | _ => []

/-- The texts in items. -/
def Json.itemTexts : List Json → List String
  | [] => []
  | j :: rest => j.texts ++ itemTexts rest

/-- The names and the texts in members. -/
def Json.memberTexts : List (String × Json) → List String
  | [] => []
  | (n, j) :: rest => n :: j.texts ++ memberTexts rest

end

/-- The texts in a value. -/
def Value.texts : Value → List String
  | .constant name => [name]
  | .text s => [s]
  | .json j => j.texts
  | _ => []

open Placeholder

/-- Figures are no placeholders. -/
theorem Placeholder.free_of_figures {s : String} (figures : Figures s.toList) : Free s := by
  refine marks_eq_nil_iff.mpr fun c member => ?_
  rw [isMark, beq_eq_false_iff_ne]
  rintro rfl
  exact absurd (figures _ member) (by decide)

namespace Json

/-- An escaped character is the character itself, or consists of others than placeholders. -/
theorem eq_or_not_isMark_of_mem_escaped {c d : Char} (image : d ∈ escaped c) :
    d = c ∨ isMark d = false := by
  have fixed : ∀ ds : List Char, (ds.all fun d => !isMark d) → d ∈ ds → d = c ∨ isMark d = false :=
    fun ds none member => .inr (by simpa using List.all_eq_true.mp none d member)
  have hex : ∀ n, n < 16 → isMark (hexDigit n) = false := by decide
  rw [escaped] at image
  split_ifs at image with _ _ _ _ _ _ _ control
  any_goals exact fixed _ rfl image
  · have high := hex (c.toNat / 16) (by omega)
    have low := hex (c.toNat % 16) (by omega)
    exact fixed _ (by simp only [List.all_cons, high, low]; rfl) image
  · exact .inl (List.mem_singleton.mp image)

theorem free_quoted {s : String} (free : Free s) : Free (quoted s) := by
  rw [Free, marks_eq_nil_iff] at free ⊢
  rw [quoted, String.toList_ofList]
  intro c member
  rcases List.mem_append.mp member with member | member
  · rcases List.mem_cons.mp member with rfl | member
    · rfl
    · obtain ⟨source, member, image⟩ := List.mem_flatMap.mp member
      rcases eq_or_not_isMark_of_mem_escaped image with rfl | other
      · exact free c member
      · exact other
  · rw [List.mem_singleton.mp member]
    rfl

theorem free_floatText (x : Binary64) : Free (floatText x) := by
  cases x with
  | finite negative significand exponent =>
    exact free_of_figures NumberStyle.figures_write
  | nan => exact (rfl : Free "null")
  | infinity negative => exact (rfl : Free "null")

mutual

/-- A document without placeholders in its texts is written without placeholders. -/
theorem free_compact : ∀ j : Json, (∀ s ∈ j.texts, Free s) → Free j.compact
  | .null, _ => by rw [compact]; rfl
  | .bool true, _ => by rw [compact]; rfl
  | .bool false, _ => by rw [compact]; rfl
  | .int i, _ => by rw [compact]; exact free_of_figures figures_intText
  | .float x, _ => by rw [compact]; exact free_floatText x
  | .str s, free => by
    rw [compact]
    exact free_quoted (free s (by rw [texts]; exact List.mem_singleton.mpr rfl))
  | .arr items, free => by
    have inner := marks_joinWith_eq_nil (rfl : Free ",") (free_compactItems items
      fun s member => free s (by rw [texts]; exact member))
    rw [compact, Free, marks_append, marks_append, inner]
    rfl
  | .obj members, free => by
    have inner := marks_joinWith_eq_nil (rfl : Free ",") (free_compactMembers members
      fun s member => free s (by rw [texts]; exact member))
    rw [compact, Free, marks_append, marks_append, inner]
    rfl

theorem free_compactItems :
    ∀ items : List Json, (∀ s ∈ itemTexts items, Free s) → ∀ t ∈ compactItems items, Free t
  | [], _ => by rw [compactItems]; simp
  | j :: rest, free => by
    rw [itemTexts] at free
    rw [compactItems]
    intro t member
    rcases List.mem_cons.mp member with rfl | member
    · exact free_compact j fun s member => free s (List.mem_append_left _ member)
    · exact free_compactItems rest (fun s member => free s (List.mem_append_right _ member)) t
        member

theorem free_compactMembers : ∀ members : List (String × Json),
    (∀ s ∈ memberTexts members, Free s) → ∀ t ∈ compactMembers members, Free t
  | [], _ => by rw [compactMembers]; simp
  | (n, j) :: rest, free => by
    rw [memberTexts] at free
    rw [compactMembers]
    intro t member
    rcases List.mem_cons.mp member with rfl | member
    · have ofName := free_quoted (free n List.mem_cons_self)
      have ofValue := free_compact j fun s member =>
        free s (List.mem_cons_of_mem n (List.mem_append_left _ member))
      rw [Free, marks_append, marks_append, ofName, ofValue]
      rfl
    · exact free_compactMembers rest
        (fun s member => free s (List.mem_cons_of_mem n (List.mem_append_right _ member))) t member

end

end Json

/-! ### Dates and moments -/

namespace Date

theorem figures_padded {width n : Nat} : Figures (padded width n) :=
  (Figures.zeros _).append (.toDigits n)

theorem figures_yearText (year : Int) : Figures (yearText year) := by
  rw [yearText]
  split
  · exact .cons rfl figures_padded
  · split
    · exact .cons rfl figures_padded
    · exact figures_padded

theorem figures_chars (d : Date) : Figures d.chars :=
  ((figures_yearText d.year).append (.cons rfl figures_padded)).append
    (.cons rfl figures_padded)

theorem free_text (d : Date) : Free d.text := by
  refine free_of_figures ?_
  rw [text, String.toList_ofList]
  exact d.figures_chars

end Date

theorem Moment.free_spacedText (m : Moment) : Free m.spacedText := by
  have figures : ∀ cs : List Char, Figures cs → cs.filter isMark = [] := by
    intro cs figures
    have free := free_of_figures (s := String.ofList cs) (by rwa [String.toList_ofList])
    rwa [Free, marks_ofList] at free
  -- blank and colons are no figures, but no placeholders either
  rw [spacedText, Free, marks_ofList, clock]
  simp only [List.filter_append, List.filter_cons, figures _ m.date.figures_chars,
    figures _ Date.figures_padded]
  rfl

/-! ### Literals -/

namespace LiteralStyle

variable {style : LiteralStyle} {v : Value} {text : String}

theorem free_quoted {s : String} (free : Free s) : Free (style.quoted s) := by
  have escaped : Free (style.escape s) := by
    rw [escape]
    have images : ∀ r ∈ style.replacements, Free r.2 := by cases style <;> decide
    generalize style.replacements = rs at images
    induction rs generalizing s with
    | nil => exact free
    | cons r rs ih =>
      exact ih (marks_replaceEach_eq_nil free (images r List.mem_cons_self))
        fun q member => images q (List.mem_cons_of_mem r member)
  rw [quoted, Free, marks_append, marks_append, escaped]
  rfl

/-- A literal holds no placeholder unless the texts of its value do. -/
theorem free_literal (frees : ∀ s ∈ v.texts, Free s) (written : style.literal v = .ok text) :
    Free text := by
  by_cases safe : Literal.isSafe v
  · exact free_of_figures (figures_literal safe written)
  · cases v with
    | int | bool => exact absurd rfl safe
    | float x =>
      cases x with
      | finite => exact absurd rfl safe
      | nan | infinity => cases written
    | null => rw [← Except.ok.inj written]; rfl
    | constant name =>
      rw [← Except.ok.inj written]
      exact free_quoted (frees name (List.mem_singleton.mpr rfl))
    | moment m => rw [← Except.ok.inj written]; exact free_quoted m.free_spacedText
    | date d => rw [← Except.ok.inj written]; exact free_quoted d.free_text
    | text s =>
      rw [← Except.ok.inj written]
      exact free_quoted (frees s (List.mem_singleton.mpr rfl))
    | json j =>
      cases j with
      | null => rw [← Except.ok.inj written]; rfl
      | bool | int | float | str | arr | obj =>
        rw [← Except.ok.inj written]
        exact free_quoted (Json.free_compact _ frees)

end LiteralStyle

end BoundQuery
