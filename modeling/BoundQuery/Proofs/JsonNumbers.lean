import BoundQuery.Json.Parser
import BoundQuery.Json.Printer
import BoundQuery.Proofs.Digits

/-!
# Numbers in JSON texts

A number is read as far as it goes: what reads as a number on its own reads as the same number in
front of anything that continues no number. An integer of 64 bits reads back from its decimal form,
and what is read is always such an integer or a finite floating-point number.

## Main definitions

* `Json.Ends`, what continues no number
* `Json.Taken`, what was read of a text, whatever of that kind follows
* `Json.Numeric`, the numbers that JSON carries

## Main results

* `Json.taken_readNumber?` — a number reads the same in front of what continues none
* `Json.readNumber?_intText` — an integer reads back
* `Json.numeric_of_readNumber?` — what is read is a number that JSON carries
-/

namespace BoundQuery.Json

/-- What may follow a value continues no number. -/
def Ends (rest : List Char) : Prop :=
  ∀ c ∈ rest.head?, c = ',' ∨ c = ']' ∨ c = '\x7d'

theorem Ends.not_isDigit {rest : List Char} (ends : Ends rest) :
    ∀ c ∈ rest.head?, c.isDigit = false := by
  intro c isHead
  rcases ends c isHead with rfl | rfl | rfl <;> rfl

/-! ### Parts of numbers -/

variable {cs r rest : List Char}

/-- What was read is read just so in front of what continues no number, and what is left is the end
of what was given. -/
structure Taken {α : Type} (read : List Char → Option (α × List Char)) (cs : List Char) (a : α)
    (r : List Char) : Prop where
  suffix : r <:+ cs
  append {rest : List Char} (ends : Ends rest) : read (cs ++ rest) = some (a, r ++ rest)

theorem Ends.head?_append (ends : Ends rest) (other : ∀ c ∈ cs.head?, c.isDigit = false) :
    ∀ c ∈ (cs ++ rest).head?, c.isDigit = false := by
  cases cs with
  | nil => exact ends.not_isDigit
  | cons c cs => exact other

theorem taken_digits? {ds : List Char} (found : digits? cs = some (ds, r)) :
    Taken digits? cs ds r := by
  rw [digits?] at found
  split at found
  · cases found
  · next some =>
    cases found
    have other : ∀ c ∈ (cs.dropWhile Char.isDigit).head?, c.isDigit = false := by
      intro c isHead
      have first := List.head?_dropWhile_not Char.isDigit cs
      rw [isHead] at first
      exact first
    refine ⟨List.dropWhile_suffix _, fun ends => ?_⟩
    -- the run ends inside `cs`, or with it, and then `rest` does not continue it
    obtain ⟨taken, dropped⟩ :=
      takeWhile_digits (fun c => List.mem_takeWhile_imp) (ends.head?_append other)
    rw [← List.append_assoc, List.takeWhile_append_dropWhile] at taken dropped
    rw [digits?, taken, dropped, if_neg some]

theorem Ends.startsDigit_append (ends : Ends rest) (other : ¬ cs.head?.any Char.isDigit) :
    ¬ (cs ++ rest).head?.any Char.isDigit := by
  cases cs with
  | nil =>
    cases rest with
    | nil => exact other
    | cons c rest =>
      have : c.isDigit = false := ends.not_isDigit c rfl
      simp [this]
  | cons c cs => exact other

theorem taken_whole? {ds : List Char} (found : whole? cs = some (ds, r)) :
    Taken whole? cs ds r := by
  cases cs with
  | nil => cases found
  | cons c cs =>
    rw [whole?] at found
    split at found
    · next zero =>
      split at found
      · cases found
      · next other =>
        cases found
        refine ⟨List.suffix_cons c r, fun ends => ?_⟩
        rw [List.cons_append, whole?, if_pos zero, if_neg (ends.startsDigit_append other)]
    · next other =>
      have run := taken_digits? found
      refine ⟨run.suffix, fun ends => ?_⟩
      rw [List.cons_append, whole?, if_neg other]
      exact run.append ends

theorem taken_places? {ds : Option (List Char)} (found : places? cs = some (ds, r)) :
    Taken places? cs ds r := by
  rw [places?.eq_def] at found
  split at found
  · obtain ⟨⟨digits, behind⟩, ofDigits, same⟩ := Option.map_eq_some_iff.mp found
    cases same
    have run := taken_digits? ofDigits
    refine ⟨run.suffix.trans (List.suffix_cons _ _), fun ends => ?_⟩
    rw [List.cons_append, places?, run.append ends]
    rfl
  · next other =>
    cases found
    refine ⟨List.suffix_refl _, fun ends => ?_⟩
    rw [places?.eq_def]
    split
    · next same =>
      -- the point would be the first character of `cs`, or of `rest`
      cases cs with
      | nil => rcases ends '.' (by simpa using congrArg List.head? same) with h | h | h <;> cases h
      | cons c cs =>
        obtain ⟨rfl, -⟩ := List.cons.inj same
        exact absurd rfl (other cs)
    · rfl

theorem takeSign_suffix (cs : List Char) : (takeSign cs).2 <:+ cs := by
  rw [takeSign.eq_def]
  split
  · exact List.suffix_cons _ _
  · exact List.suffix_cons _ _
  · exact List.suffix_refl _

theorem takeSign_append (some : cs ≠ []) :
    takeSign (cs ++ rest) = ((takeSign cs).1, (takeSign cs).2 ++ rest) := by
  obtain ⟨c, cs, rfl⟩ := List.exists_cons_of_ne_nil some
  rw [takeSign.eq_def, takeSign.eq_def]
  split <;> split <;> simp_all

theorem taken_exponent? {e : Option Int} (found : exponent? cs = some (e, r)) :
    Taken exponent? cs e r := by
  cases cs with
  | nil =>
    cases found
    refine ⟨List.suffix_refl _, fun {rest} ends => ?_⟩
    cases rest with
    | nil => rfl
    | cons c rest => rcases ends c rfl with rfl | rfl | rfl <;> rfl
  | cons c cs =>
    rw [exponent?] at found
    split at found
    · next isMark =>
      have some : cs ≠ [] := by
        rintro rfl
        cases found
      have unsignedSuffix := takeSign_suffix cs
      cases isSign : takeSign cs with
      | mk negative unsigned =>
        rw [isSign] at found unsignedSuffix
        obtain ⟨⟨digits, behind⟩, ofDigits, same⟩ := Option.map_eq_some_iff.mp found
        cases same
        have run := taken_digits? ofDigits
        refine ⟨(run.suffix.trans unsignedSuffix).trans (List.suffix_cons c cs), fun ends => ?_⟩
        rw [List.cons_append, exponent?, if_pos isMark, takeSign_append some, isSign]
        dsimp only
        rw [run.append ends]
        rfl
    · next other =>
      cases found
      refine ⟨List.suffix_refl _, fun ends => ?_⟩
      rw [List.cons_append, exponent?, if_neg other]

theorem taken_unsigned? {negative : Bool} {j : Json}
    (found : unsigned? negative cs = some (j, r)) : Taken (unsigned? negative) cs j r := by
  simp only [unsigned?, bind, Option.bind_eq_some_iff] at found
  obtain ⟨⟨whole, behindWhole⟩, ofWhole, ⟨places, behindPlaces⟩, ofPlaces,
    ⟨exponent, behind⟩, ofExponent, value, isValue, same⟩ := found
  cases same
  have first := taken_whole? ofWhole
  have second := taken_places? ofPlaces
  have third := taken_exponent? ofExponent
  refine ⟨(third.suffix.trans second.suffix).trans first.suffix, fun ends => ?_⟩
  simp only [unsigned?, bind, Option.bind, first.append ends, second.append ends,
    third.append ends, isValue]
  rfl

theorem taken_readNumber? {j : Json} (found : readNumber? cs = some (j, r)) :
    Taken readNumber? cs j r := by
  cases cs with
  | nil => cases found
  | cons c cs =>
    rw [readNumber?] at found
    split at found
    · next negative =>
      have unsigned := taken_unsigned? found
      refine ⟨unsigned.suffix.trans (List.suffix_cons c cs), fun ends => ?_⟩
      rw [List.cons_append, readNumber?, if_pos negative]
      exact unsigned.append ends
    · next positive =>
      have unsigned := taken_unsigned? found
      refine ⟨unsigned.suffix, fun ends => ?_⟩
      rw [List.cons_append, readNumber?, if_neg positive]
      exact unsigned.append ends

/-! ### Integers -/

theorem le_ofDigitChars (cs : List Char) (m : Nat) : m ≤ Nat.ofDigitChars 10 cs m := by
  induction cs generalizing m with
  | nil => exact Nat.le_refl m
  | cons c cs ih =>
    rw [Nat.ofDigitChars_cons]
    have := ih (10 * m + (c.toNat - '0'.toNat))
    omega

/-- Digits whose value fits are gathered as a whole. -/
theorem gatherWhole_eq {m : Nat} (fits : Nat.ofDigitChars 10 cs m ≤ significandLimit) :
    gatherWhole cs m = (Nat.ofDigitChars 10 cs m, 0) := by
  induction cs generalizing m with
  | nil => rfl
  | cons c cs ih =>
    rw [Nat.ofDigitChars_cons] at fits ⊢
    rw [gatherWhole]
    simp only [Nat.le_trans (le_ofDigitChars cs _) fits, if_true]
    exact ih fits

/-- The integers that JSON carries: those of 64 bits, with a sign or without. -/
def InRange (i : Int) : Prop :=
  -0x8000000000000000 ≤ i ∧ i < 0x10000000000000000

theorem number?_toDigits {i : Int} (inRange : InRange i) :
    number? (i < 0) (Nat.toDigits 10 i.natAbs) none none = some (.int i) := by
  obtain ⟨least, most⟩ := inRange
  have value : Nat.ofDigitChars 10 (Nat.toDigits 10 i.natAbs) 0 = i.natAbs :=
    digitsValue_toDigits i.natAbs
  have gathered : gatherWhole (Nat.toDigits 10 i.natAbs) 0 = (i.natAbs, 0) := by
    rw [gatherWhole_eq, value]
    rw [value, significandLimit]
    omega
  rw [number?, gathered]
  by_cases negative : i < 0
  · -- `-0` and what lies below the least integer are read otherwise, and are not written here
    have nonzero : i.natAbs ≠ 0 := by omega
    have fits : ¬ 0x8000000000000000 < i.natAbs := by omega
    have back : -(i.natAbs : Int) = i := by omega
    simp only [negative, Option.isNone_none, decide_true, Bool.true_and, beq_self_eq_true,
      beq_eq_false_iff_ne.mpr nonzero, fits, decide_false, Bool.or_self, Bool.not_false, if_true,
      back]
  · have back : (i.natAbs : Int) = i := by omega
    simp only [negative, Option.isNone_none, decide_false, Bool.true_and, beq_self_eq_true,
      Bool.false_and, Bool.not_false, if_true, Bool.false_eq_true, if_false, back]

theorem whole?_toDigits (n : Nat) : whole? (Nat.toDigits 10 n) = some (Nat.toDigits 10 n, []) := by
  have digits : ∀ c ∈ Nat.toDigits 10 n, c.isDigit := fun c member =>
    Nat.isDigit_of_mem_toDigits (b := 10) (n := n) (by decide) (by decide) member
  have some := Nat.toDigits_ne_nil (n := n) (b := 10)
  cases written : Nat.toDigits 10 n with
  | nil => exact absurd written some
  | cons c ds =>
    rw [whole?]
    split
    · next zero =>
      -- a leading zero stands alone, and only zero is written with one
      subst zero
      rw [toDigits_eq_zero_cons written]
      rfl
    · rw [written] at digits
      obtain ⟨taken, dropped⟩ := @takeWhile_digits (c :: ds) [] digits (by simp)
      rw [List.append_nil] at taken dropped
      simp [digits?, taken, dropped]

theorem unsigned?_toDigits {i : Int} (inRange : InRange i) :
    unsigned? (i < 0) (Nat.toDigits 10 i.natAbs) = some (.int i, []) := by
  simp [unsigned?, whole?_toDigits, places?, exponent?, number?_toDigits inRange]

/-- An integer reads back from its decimal form. -/
theorem readNumber?_intText {i : Int} (inRange : InRange i) :
    readNumber? (intText i).toList = some (.int i, []) := by
  have unsigned := unsigned?_toDigits inRange
  rw [intText, String.toList_ofList]
  split
  · next negative =>
    simp only [negative, decide_true] at unsigned
    rw [readNumber?, if_pos rfl, unsigned]
  · next whole =>
    simp only [whole, decide_false] at unsigned
    cases written : Nat.toDigits 10 i.natAbs with
    | nil => exact absurd written Nat.toDigits_ne_nil
    | cons c ds =>
      have digit : c.isDigit :=
        Nat.isDigit_of_mem_toDigits (b := 10) (n := i.natAbs) (by decide) (by decide)
          (written ▸ List.mem_cons_self)
      have unsignedFirst : c ≠ '-' := by
        rintro rfl
        cases digit
      rw [readNumber?, if_neg unsignedFirst, ← written, unsigned]

/-! ### What is read -/

theorem isDigit_of_whole? {c : Char} {ds : List Char} (found : whole? (c :: cs) = some (ds, r)) :
    c.isDigit := by
  rw [whole?] at found
  split at found
  · next zero =>
    subst zero
    rfl
  · by_contra other
    simp [digits?, other] at found

/-- A number starts with a digit or a minus sign. -/
theorem first_of_readNumber? {c : Char} {j : Json} (found : readNumber? (c :: cs) = some (j, r)) :
    c = '-' ∨ c.isDigit := by
  rw [readNumber?] at found
  split at found
  · next sign => exact .inl sign
  · simp only [unsigned?, bind, Option.bind_eq_some_iff] at found
    obtain ⟨⟨whole, behind⟩, ofWhole, -⟩ := found
    exact .inr (isDigit_of_whole? ofWhole)

theorem gatherWhole_le {m : Nat} (least : m ≤ significandLimit) :
    (gatherWhole cs m).1 ≤ significandLimit := by
  induction cs generalizing m with
  | nil => exact least
  | cons c cs ih =>
    rw [gatherWhole]
    split
    · next fits => exact ih fits
    · exact least

theorem isFinite_of_scale? {fuel : Nat} {x y : Binary64} {e : Int}
    (found : scale? fuel x e = some y) : y.isFinite := by
  induction fuel generalizing x e with
  | zero => cases found
  | succ fuel ih =>
    rw [scale?] at found
    split at found
    · obtain ⟨finite, same⟩ := Option.ite_none_right_eq_some.mp found
      rwa [Option.some.inj same] at finite
    · split at found
      · next zero =>
        cases found
        cases y with
        | finite => rfl
        | _ => cases zero
      · split at found
        · cases found
        · exact ih found

/-- A number as JSON carries it: an integer in range, or a finite floating-point number. -/
inductive Numeric : Json → Prop
  | int {i : Int} (inRange : InRange i) : Numeric (.int i)
  | float {x : Binary64} (finite : x.isFinite) : Numeric (.float x)

theorem numeric_of_number? {negative : Bool} {whole : List Char} {places : Option (List Char)}
    {exponent : Option Int} {j : Json} (found : number? negative whole places exponent = some j) :
    j.Numeric := by
  have bound : (gatherWhole whole 0).1 ≤ significandLimit := gatherWhole_le (Nat.zero_le _)
  rw [number?] at found
  dsimp only at found
  split at found
  · next isInt =>
    cases found
    rw [significandLimit] at bound
    apply Numeric.int
    cases negative with
    | false =>
      simp only [InRange]
      simp
      omega
    | true =>
      simp only [InRange]
      simp at isInt
      simp
      omega
  · obtain ⟨x, scaled, rfl⟩ := Option.map_eq_some_iff.mp found
    have finite := isFinite_of_scale? scaled
    apply Numeric.float
    cases negative with
    | false => exact finite
    | true => cases x <;> simp_all [Binary64.neg, Binary64.isFinite]

theorem numeric_of_unsigned? {negative : Bool} {j : Json}
    (found : unsigned? negative cs = some (j, r)) : j.Numeric := by
  simp only [unsigned?, bind, Option.bind_eq_some_iff] at found
  obtain ⟨_, -, _, -, _, -, value, isValue, same⟩ := found
  cases same
  exact numeric_of_number? isValue

theorem numeric_of_readNumber? {j : Json} (found : readNumber? cs = some (j, r)) :
    j.Numeric := by
  cases cs with
  | nil => cases found
  | cons c cs =>
    rw [readNumber?] at found
    split at found
    · exact numeric_of_unsigned? found
    · exact numeric_of_unsigned? found

end BoundQuery.Json
