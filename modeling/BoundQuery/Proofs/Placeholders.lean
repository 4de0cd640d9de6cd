import BoundQuery.Proofs.Marks
import BoundQuery.Statement.Fragment

/-!
# Placeholders and their values

Filling a text replaces its placeholders from left to right by the texts of values. A placeholder
for which no value is left stays, and values for which there is no placeholder are left over. A
fragment whose texts hold no placeholders, and whose scripts hold one for each of their values, is
filled by its own values exactly.

## Main definitions

* `Placeholder.fill`, a text with its placeholders replaced
* `Fragment.filled`, a fragment with its values written in place
* `Fragment.Fits`, fragments with a placeholder for each value

## Main results

* `Placeholder.fill_append` — a concatenation is filled part by part
* `Fragment.fill_sql` — the text of a fragment that fits, filled with its values
-/

namespace BoundQuery

namespace Placeholder

open Text

/-- Is the character a placeholder? -/
def isMark (c : Char) : Bool :=
  c == '?'

/-- The number of placeholders in a text. -/
def count (s : String) : Nat :=
  (marks isMark s).length

/-- A text without placeholders. -/
abbrev Free (s : String) : Prop :=
  marks isMark s = []

/-- Characters with their placeholders replaced by the texts of values, and the values left over. -/
def fillChars (lit : Value → String) : List Char → List Value → List Char × List Value
  | [], vs => ([], vs)
  | c :: cs, vs =>
    if isMark c then
      match vs with
      | [] => (c :: (fillChars lit cs []).1, (fillChars lit cs []).2)
      | v :: vs => ((lit v).toList ++ (fillChars lit cs vs).1, (fillChars lit cs vs).2)
    else (c :: (fillChars lit cs vs).1, (fillChars lit cs vs).2)

/-- A text with its `k`-th placeholder replaced by the text of the `k`-th value, and the values left
over. -/
def fill (lit : Value → String) (s : String) (vs : List Value) : String × List Value :=
  (String.ofList (fillChars lit s.toList vs).1, (fillChars lit s.toList vs).2)

theorem markClass : MarkClass isMark :=
  .single (by decide) (by decide) (by decide)

variable {lit : Value → String} {s t : String}

theorem fillChars_other {c : Char} (other : ¬ isMark c) (cs : List Char) (vs : List Value) :
    fillChars lit (c :: cs) vs = (c :: (fillChars lit cs vs).1, (fillChars lit cs vs).2) := by
  rw [fillChars.eq_def]
  simp only [other, if_false, Bool.false_eq_true]

theorem fillChars_mark {c : Char} (mark : isMark c) (cs : List Char) (v : Value)
    (vs : List Value) :
    fillChars lit (c :: cs) (v :: vs) =
      ((lit v).toList ++ (fillChars lit cs vs).1, (fillChars lit cs vs).2) := by
  rw [fillChars.eq_def]
  simp only [mark, if_true]

theorem fillChars_lone {c : Char} (mark : isMark c) (cs : List Char) :
    fillChars lit (c :: cs) [] = (c :: (fillChars lit cs []).1, (fillChars lit cs []).2) := by
  rw [fillChars.eq_def]
  simp only [mark, if_true]

theorem fillChars_append (lit : Value → String) (cs ds : List Char) (vs : List Value) :
    fillChars lit (cs ++ ds) vs =
      ((fillChars lit cs vs).1 ++ (fillChars lit ds (fillChars lit cs vs).2).1,
        (fillChars lit ds (fillChars lit cs vs).2).2) := by
  induction cs generalizing vs with
  | nil => rfl
  | cons c cs ih =>
    rw [List.cons_append]
    by_cases mark : isMark c
    · cases vs with
      -- without values left, a placeholder is a character like others
      | nil => rw [fillChars_lone mark, fillChars_lone mark, ih, List.cons_append]
      | cons v vs => rw [fillChars_mark mark, fillChars_mark mark, ih, List.append_assoc]
    · rw [fillChars_other mark, fillChars_other mark, ih, List.cons_append]

/-- A concatenation is filled part by part, the second with the values that the first leaves. -/
theorem fill_append (lit : Value → String) (s t : String) (vs : List Value) :
    fill lit (s ++ t) vs =
      ((fill lit s vs).1 ++ (fill lit t (fill lit s vs).2).1,
        (fill lit t (fill lit s vs).2).2) := by
  simp only [fill, String.toList_append, fillChars_append, String.ofList_append]

/-- As many values as placeholders are all used, and none behind them. -/
theorem fillChars_values {cs : List Char} {us : List Value}
    (enough : (cs.filter isMark).length = us.length) (vs : List Value) :
    fillChars lit cs (us ++ vs) = ((fillChars lit cs us).1, vs) := by
  induction cs generalizing us with
  | nil => rw [List.length_eq_zero_iff.mp enough.symm]; rfl
  | cons c cs ih =>
    by_cases mark : isMark c
    · rw [List.filter_cons_of_pos mark, List.length_cons] at enough
      cases us with
      | nil => simp at enough
      | cons u us =>
        rw [List.cons_append, fillChars_mark mark, fillChars_mark mark, ih (Nat.succ.inj enough)]
    · rw [List.filter_cons_of_neg mark] at enough
      rw [fillChars_other mark, fillChars_other mark, ih enough]

theorem fill_values {us : List Value} (enough : count s = us.length) (vs : List Value) :
    fill lit s (us ++ vs) = ((fill lit s us).1, vs) := by
  simp only [fill, fillChars_values enough]

theorem fillChars_of_free {cs : List Char} (free : cs.filter isMark = []) (vs : List Value) :
    fillChars lit cs vs = (cs, vs) := by
  induction cs with
  | nil => rfl
  | cons c cs ih =>
    by_cases mark : isMark c
    · simp [mark] at free
    · rw [List.filter_cons_of_neg mark] at free
      rw [fillChars_other mark, ih free]

/-- A text without placeholders is not changed and uses no value. -/
theorem fill_of_free (free : Free s) (vs : List Value) : fill lit s vs = (s, vs) := by
  rw [fill, fillChars_of_free free, String.ofList_toList]

theorem fill_mark (v : Value) (vs : List Value) : fill lit "?" (v :: vs) = (lit v, vs) := by
  have chars : fillChars lit "?".toList (v :: vs) = ((lit v).toList ++ [], vs) := rfl
  rw [fill, chars, List.append_nil, String.ofList_toList]

/-- Values whose texts hold no placeholders leave none in a text that has no more of them. -/
theorem free_fill {us : List Value} (frees : ∀ v, Free (lit v)) (enough : count s = us.length) :
    Free (fill lit s us).1 := by
  rw [fill, Free, marks_ofList]
  rw [count, marks] at enough
  -- on characters, where each placeholder meets a value
  generalize s.toList = cs at enough
  induction cs generalizing us with
  | nil => rfl
  | cons c cs ih =>
    by_cases mark : isMark c
    · rw [List.filter_cons_of_pos mark, List.length_cons] at enough
      cases us with
      | nil => simp at enough
      | cons u us =>
        rw [fillChars_mark mark, List.filter_append, ih (Nat.succ.inj enough), List.append_nil]
        exact frees u
    · rw [List.filter_cons_of_neg mark] at enough
      rw [fillChars_other mark, List.filter_cons_of_neg mark]
      exact ih enough

end Placeholder

/-! ### Fragments -/

open Placeholder

/-- A piece with its values written in place. -/
def Piece.filled (lit : Value → String) : Piece → String
  | .text s => s
  | .bound v => lit v.bound
  | .script s vs => (fill lit s (vs.map Value.bound)).1

/-- Does the piece have a placeholder for each of its values, and no others? -/
def Piece.Fits : Piece → Prop
  | .text s => Free s
  | .bound _ => True
  | .script s vs => count s = vs.length

namespace Fragment

variable {lit : Value → String} {f g : Fragment} {p : Piece}

/-- A fragment with its values written in place. -/
def filled (lit : Value → String) (f : Fragment) : String :=
  f.foldr (fun p rest => p.filled lit ++ rest) ""

/-- Does each piece have a placeholder for each of its values, and no others? -/
def Fits (f : Fragment) : Prop :=
  ∀ p ∈ f, p.Fits

@[simp]
theorem filled_nil : filled lit [] = "" := rfl

@[simp]
theorem filled_cons (p : Piece) : filled lit (p :: f) = p.filled lit ++ filled lit f := rfl

@[simp]
theorem filled_append : filled lit (f ++ g) = filled lit f ++ filled lit g := by
  induction f with
  | nil => simp
  | cons p f ih => rw [List.cons_append, filled_cons, filled_cons, ih, String.append_assoc]

theorem filled_joined (separator : String) (fs : List Fragment) :
    filled lit (joined separator fs) = Text.joinWith separator (fs.map (filled lit)) := by
  fun_induction joined separator fs with
  | case1 => rfl
  | case2 f => rfl
  | case3 f rest _ ih =>
    rw [filled_append, filled_cons, ih, List.map_cons, Text.joinWith]
    · simp [Piece.filled, String.append_assoc]
    · simpa using ‹_›

theorem values_joined (separator : String) (fs : List Fragment) :
    values (joined separator fs) = fs.flatMap values := by
  fun_induction joined separator fs with
  | case1 => rfl
  | case2 f => simp
  | case3 f rest _ ih => rw [values_append, values_cons, ih, Piece.values, List.flatMap_cons]; rfl

theorem fits_nil : Fits [] :=
  fun _ member => absurd member List.not_mem_nil

theorem fits_cons (first : p.Fits) (rest : Fits f) : Fits (p :: f) :=
  List.forall_mem_cons.mpr ⟨first, rest⟩

theorem fits_text {s : String} (free : Free s) (rest : Fits f) : Fits (.text s :: f) :=
  fits_cons free rest

theorem Fits.append (left : Fits f) (right : Fits g) : Fits (f ++ g) :=
  List.forall_mem_append.mpr ⟨left, right⟩

theorem fits_joined {separator : String} (free : Free separator) {fs : List Fragment}
    (each : ∀ f ∈ fs, Fits f) : Fits (joined separator fs) := by
  fun_induction joined separator fs with
  | case1 => exact fits_nil
  | case2 f => exact each f (List.mem_singleton.mpr rfl)
  | case3 f rest _ ih =>
    have others : Fits (joined separator rest) :=
      ih fun g member => each g (List.mem_cons_of_mem f member)
    exact (each f List.mem_cons_self).append (fits_cons free others)

/-- A piece that fits uses exactly its own values. -/
theorem fill_piece (fits : p.Fits) (vs : List Value) :
    fill lit p.sql (p.values ++ vs) = (p.filled lit, vs) := by
  cases p with
  | text s => exact fill_of_free fits vs
  | bound v => exact fill_mark v.bound vs
  | script s us =>
    have enough : count s = (us.map Value.bound).length := by
      rw [List.length_map]
      exact fits
    exact fill_values enough vs

/-- The text of a fragment that fits, filled with the fragment's values, is the fragment with its
values in place; values behind them are left over. -/
theorem fill_sql (fits : f.Fits) (vs : List Value) :
    fill lit f.sql (f.values ++ vs) = (f.filled lit, vs) := by
  induction f with
  | nil => exact fill_of_free rfl vs
  | cons p f ih =>
    rw [sql_cons, values_cons, List.append_assoc, fill_append,
      fill_piece (fits p List.mem_cons_self),
      ih fun q member => fits q (List.mem_cons_of_mem p member)]
    rfl

theorem fill_all (fits : f.Fits) : fill lit f.sql f.values = (f.filled lit, []) := by
  rw [← fill_sql fits [], List.append_nil]

theorem count_piece (fits : p.Fits) : count p.sql = p.values.length := by
  cases p with
  | text s => rw [count, show Text.marks isMark (Piece.text s).sql = [] from fits]; rfl
  | bound v => exact (by decide : count "?" = 1)
  | script s us =>
    rw [Piece.values, List.length_map]
    exact fits

/-- A fragment that fits has as many placeholders as values. -/
theorem count_sql (fits : f.Fits) : count f.sql = f.values.length := by
  induction f with
  | nil => rfl
  | cons p f ih =>
    rw [sql_cons, values_cons, count, Text.marks_append, List.length_append, List.length_append]
    exact congrArg₂ (· + ·) (count_piece (fits p List.mem_cons_self))
      (ih fun q member => fits q (List.mem_cons_of_mem p member))

end Fragment

end BoundQuery
