import BoundQuery.Number.Text
import BoundQuery.Text.Blank
import Mathlib.Data.List.Induction
import Mathlib.Data.List.TakeWhile

/-!
# Runs of digits

What readers and writers of numbers, dates and JSON share: a run of digits is read up to the first
other character, it has a value, and a number is written without leading zeros.

## Main results

* `takeWhile_digits` — a run of digits is read as a whole
* `digitsValue_toDigits`, `digitsValue_lt` — the value of a run of digits
* `toDigits_eq_zero_cons` — only zero is written with a leading zero
-/

namespace BoundQuery

open Text

theorem isDigit_iff {c : Char} : c.isDigit ↔ 48 ≤ c.toNat ∧ c.toNat ≤ 57 := by
  simp [Char.isDigit, UInt32.le_iff_toNat_le]

/-- A digit is not blank. -/
theorem not_isBlank_of_isDigit {c : Char} (digit : c.isDigit) : isBlank c = false := by
  have bounds := isDigit_iff.mp digit
  simp only [isBlank, Bool.or_eq_false_iff, Bool.and_eq_false_iff, decide_eq_false_iff_not,
    beq_eq_false_iff_ne]
  omega

/-- Digits behind zeros have the same value. -/
theorem digitsValue_zeros (n : Nat) (cs : List Char) :
    digitsValue (List.replicate n '0' ++ cs) = digitsValue cs := by
  induction n with
  | zero => rfl
  | succ n ih =>
    rw [List.replicate_succ, List.cons_append, ← ih]
    rfl

/-- Digits stay below the power of ten that has one digit more. -/
theorem digitsValue_lt {cs : List Char} (digits : ∀ c ∈ cs, c.isDigit) :
    digitsValue cs < Nat.pow 10 cs.length := by
  -- from the last digit on, which is the unit
  induction cs using List.reverseRecOn with
  | nil => decide
  | append_singleton cs c ih =>
    rw [List.forall_mem_append, List.forall_mem_singleton, isDigit_iff] at digits
    have before := ih digits.1
    have step : digitsValue (cs ++ [c]) = 10 * digitsValue cs + (c.toNat - 48) := by
      rw [digitsValue, List.foldl_append]
      rfl
    rw [step, List.length_append, List.length_singleton, Nat.pow_eq, Nat.pow_succ, ← Nat.pow_eq]
    omega

theorem digitsValue_toDigits (n : Nat) : digitsValue (Nat.toDigits 10 n) = n :=
  Nat.ofDigitChars_ten_toDigits

/-- Only zero is written with a leading zero. -/
theorem toDigits_eq_zero_cons {n : Nat} {ds : List Char} (zero : Nat.toDigits 10 n = '0' :: ds) :
    ds = [] := by
  by_contra more
  have digits : ∀ c ∈ ds, c.isDigit := fun c member =>
    Nat.isDigit_of_mem_toDigits (b := 10) (n := n) (by decide) (by decide)
      (zero ▸ List.mem_cons_of_mem _ member)
  have value : digitsValue ds = n := by
    have whole := digitsValue_toDigits n
    rw [zero] at whole
    exact whole
  have small : n < Nat.pow 10 ds.length := value ▸ digitsValue_lt digits
  have short := (Nat.length_toDigits_le_iff (by decide) (List.length_pos_iff.mpr more)).mpr small
  rw [zero, List.length_cons] at short
  omega

/-- A run of digits in front of something else is read as a whole. -/
theorem takeWhile_digits {ds rest : List Char} (digits : ∀ c ∈ ds, c.isDigit)
    (ends : ∀ c ∈ rest.head?, c.isDigit = false) :
    (ds ++ rest).takeWhile Char.isDigit = ds ∧ (ds ++ rest).dropWhile Char.isDigit = rest := by
  rw [List.takeWhile_append_of_pos digits, List.dropWhile_append_of_pos digits]
  cases rest with
  | nil => simp
  | cons c cs =>
    have other : c.isDigit = false := ends c rfl
    simp [other]

end BoundQuery
