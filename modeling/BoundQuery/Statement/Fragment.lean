import BoundQuery.Text.Cut
import BoundQuery.Value

/-!
# Fragments of statements

A fragment is a list of pieces: text, placeholders with the values they stand for, and scripts of
the caller's own with the values they bind. The SQL text and the list of bound values are two views
of the same pieces, so they cannot get out of step.

## Main definitions

* `Piece`, `Fragment`
* `Fragment.sql`, the text with its placeholders
* `Fragment.values`, the values in the order of the placeholders
-/

namespace BoundQuery

/-- A piece of a statement. -/
inductive Piece where
  /-- Text that holds no placeholder of ours. -/
  | text (s : String)
  /-- A placeholder with its value. -/
  | bound (v : Value)
  /-- A script with the values for its own placeholders. -/
  | script (s : String) (vs : List Value)
  deriving Inhabited

/-- The SQL text of a piece. -/
def Piece.sql : Piece → String
  | .text s => s
  | .bound _ => "?"
  | .script s _ => s

/-- The values that a piece binds. -/
def Piece.values : Piece → List Value
  | .text _ => []
  | .bound v => [v.bound]
  | .script _ vs => vs.map Value.bound

/-- A part of a statement. -/
abbrev Fragment := List Piece

namespace Fragment

/-- The text of the pieces, one after the other. -/
def sql (f : Fragment) : String :=
  f.foldr (fun p rest => p.sql ++ rest) ""

/-- The values of the pieces, one after the other. -/
def values (f : Fragment) : List Value :=
  f.flatMap Piece.values

@[simp]
theorem sql_nil : sql [] = "" := rfl

@[simp]
theorem sql_cons (p : Piece) (f : Fragment) : sql (p :: f) = p.sql ++ sql f := rfl

/-- The text of a concatenation is the concatenation of the texts. -/
@[simp]
theorem sql_append (f g : Fragment) : sql (f ++ g) = sql f ++ sql g := by
  induction f with
  | nil => simp
  | cons p f ih => rw [List.cons_append, sql_cons, sql_cons, ih, String.append_assoc]

@[simp]
theorem values_nil : values [] = [] := rfl

@[simp]
theorem values_cons (p : Piece) (f : Fragment) : values (p :: f) = p.values ++ values f := rfl

/-- The values of a concatenation are those of its parts, in order. -/
@[simp]
theorem values_append (f g : Fragment) : values (f ++ g) = values f ++ values g :=
  List.flatMap_append

/-- Fragments with a separator between neighbours. -/
def joined (separator : String) : List Fragment → Fragment
  | [] => []
  | [f] => f
  | f :: rest => f ++ Piece.text separator :: joined separator rest

end Fragment

end BoundQuery
