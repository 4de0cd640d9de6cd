import BoundQuery.Proofs.Leaves
import BoundQuery.Proofs.Placeholders
import BoundQuery.Proofs.Resolution
import BoundQuery.Statement.Update

/-!
# Assignments of an update

An entry of an update gives nothing, or a script with its values, or a column with the value it
stores. Each case has its text with the values in place and its list of values.

## Main definitions

* `Assignment.Gives`, what an entry gives
* `Assignment.spelled`, an entry with its values written in place
* `Assignment.bindings`, the values of an entry
* `Assignment.EntryFits`, a placeholder for each value

## Main results

* `Assignment.gives_of_ofEntry` — what an entry gives is one of the cases
* `Assignment.Gives.fits`, `Assignment.Gives.bindings`, `Assignment.Gives.spelled` — its
  placeholders, values and text
-/

namespace BoundQuery

open Text Placeholder

namespace Assignment

/-- The values of an operand, if there is one. -/
def operands (c : Condition) : List Value :=
  (c.operand.map Operand.values).getD []

/-- Is the value left out of the statement? -/
def isElided (e : Entity) (key : String) (v : Value) : Bool :=
  v.isNullOrEmpty || e.isDefault key v

/-- What an entry gives. -/
inductive Gives (scope : Scope) (c : Condition) : Option Fragment → Prop where
  | blank (blank : trim c.key = "") : Gives scope c none
  | script {sql : String} (named : trim c.key ≠ "") (isScript : c.predicate = .script)
    (whole : ∀ min max, c.operand ≠ some (.range min max))
    (resolved : scope.script (trim c.key) = .ok sql) :
    Gives scope c (some [.script sql (operands c)])
  | placeholder {sql : String} {v : Value} (named : trim c.key ≠ "")
    (notScript : c.predicate ≠ .script) (holds : hasChar '?' (trim c.key))
    (is : value scope.entity (trim c.key) c.operand = .ok v)
    (resolved : scope.script (trim c.key) = .ok sql) :
    Gives scope c (some [.script sql [v]])
  | elided {v : Value} (named : trim c.key ≠ "") (notScript : c.predicate ≠ .script)
    (lacks : hasChar '?' (trim c.key) = false)
    (is : value scope.entity (trim c.key) c.operand = .ok v)
    (elided : isElided scope.entity (trim c.key) v) : Gives scope c none
  | property {v w : Value} {p : Property} (named : trim c.key ≠ "")
    (notScript : c.predicate ≠ .script) (lacks : hasChar '?' (trim c.key) = false)
    (is : value scope.entity (trim c.key) c.operand = .ok v)
    (kept : isElided scope.entity (trim c.key) v = false)
    (known : scope.entity.property? (trim c.key) = some p)
    (ofStored : stored scope.entity (trim c.key) p v = .ok w) :
    Gives scope c (some [.text p.column, .text " = ", .bound w])

variable {scope : Scope} {c : Condition} {b : Option Fragment}

/-- A script takes the values of its operand as they are; a range is refused. -/
theorem script_eq_ok {key : String} {operand : Option Operand} {g : Fragment}
    (ok : script scope key operand = .ok g) :
    (∀ min max, operand ≠ some (.range min max)) ∧
      ∃ sql, scope.script key = .ok sql ∧
        g = [.script sql ((operand.map Operand.values).getD [])] := by
  unfold script at ok
  split at ok
  · cases ok
  all_goals
    obtain ⟨sql, resolved, ok⟩ := Outcome.bind_eq_ok.mp ok
    exact ⟨by simp, sql, resolved, (Outcome.pure_eq_ok.mp ok).symm⟩

/-- What an entry gives is one of the cases. -/
theorem gives_of_ofEntry (ok : ofEntry scope c = .ok b) : Gives scope c b := by
  rw [ofEntry] at ok
  split at ok
  · next empty =>
    rw [← Except.ok.inj ok]
    exact .blank (by simpa using empty)
  · next given =>
    have named : trim c.key ≠ "" := by simpa using given
    split at ok
    · next isScript =>
      obtain ⟨g, ofScript, rfl⟩ := Outcome.map_eq_ok.mp ok
      obtain ⟨whole, sql, resolved, rfl⟩ := script_eq_ok ofScript
      exact .script named isScript whole resolved
    · next notScript =>
      obtain ⟨v, is, ok⟩ := Outcome.bind_eq_ok.mp ok
      split at ok
      · next holds =>
        obtain ⟨sql, resolved, ok⟩ := Outcome.bind_eq_ok.mp ok
        rw [← Outcome.pure_eq_ok.mp ok]
        exact .placeholder named notScript holds is resolved
      · next lacks =>
        rw [Bool.not_eq_true] at lacks
        rw [ofProperty] at ok
        split at ok
        · next elided =>
          rw [← Except.ok.inj ok]
          exact .elided named notScript lacks is elided
        · next kept =>
          rw [Bool.not_eq_true] at kept
          split at ok
          · cases ok
          · next p known =>
            obtain ⟨w, ofStored, ok⟩ := Outcome.bind_eq_ok.mp ok
            rw [← Outcome.pure_eq_ok.mp ok]
            exact .property named notScript lacks is kept known ofStored

/-! ### Placeholders -/

/-- The placeholders of an entry: a script has one for each value of its operand, any other key has
at most one. A blank script gives nothing, whatever its operand. -/
def EntryFits (c : Condition) : Prop :=
  if c.predicate = .script then isBlankText c.key ∨ count c.key = (operands c).length
  else count c.key ≤ 1

theorem count_trim (s : String) : count (trim s) = count s := by
  rw [count, marks_trim markClass.not_blank, count]

theorem count_script {text sql : String} (lacks : scope.Lacks isMark)
    (resolved : scope.script text = .ok sql) : count sql = count text := by
  rw [count, lacks.marks_script markClass resolved, count]

theorem count_pos {s : String} (holds : hasChar '?' s) : 0 < count s := by
  rw [hasChar, List.contains_iff_mem] at holds
  exact List.length_pos_of_mem (List.mem_filter.mpr ⟨holds, rfl⟩)

/-- What an entry that fits gives has a placeholder for each of its values. -/
theorem Gives.fits (gives : Gives scope c b) (lacks : scope.Lacks isMark) (fits : EntryFits c) :
    ∀ g, b = some g → g.Fits := by
  rw [EntryFits] at fits
  rintro g same
  cases gives with
  | blank | elided => cases same
  | script named isScript whole resolved =>
    cases same
    rw [if_pos isScript] at fits
    rcases fits with blank | enough
    · exact absurd (trim_of_blank blank) named
    · refine Fragment.fits_cons ?_ Fragment.fits_nil
      rw [Piece.Fits, count_script lacks resolved, count_trim, enough]
  | placeholder named notScript holds is resolved =>
    cases same
    -- at most one placeholder by the rule, at least one by the case
    rw [if_neg notScript, ← count_trim] at fits
    refine Fragment.fits_cons ?_ Fragment.fits_nil
    rw [Piece.Fits, count_script lacks resolved]
    exact Nat.le_antisymm fits (count_pos holds)
  | property named notScript lacks' is kept known ofStored =>
    cases same
    have column := (lacks.entity.of_property known).2
    exact Fragment.fits_cons column
      (Fragment.fits_text (s := " = ") rfl (Fragment.fits_cons trivial Fragment.fits_nil))

/-! ### Values and text -/

/-- The values that an entry binds: those of a script as they are, that of a property as its column
stores it. An entry that gives nothing binds nothing. -/
def bindings (scope : Scope) (c : Condition) : List Value :=
  let key := trim c.key
  if key.isEmpty then []
  else if c.predicate = .script then (operands c).map Value.bound
  else
    match value scope.entity key c.operand, scope.entity.property? key with
    | .error _, _ => []
    | .ok v, property =>
      if hasChar '?' key then [v.bound]
      else if isElided scope.entity key v then []
      else
        match property with
        | none => []
        | some p => ((stored scope.entity key p v).toOption.map Value.bound).toList

/-- An entry with its values written in place. -/
def spelled (lit : Value → String) (scope : Scope) (c : Condition) :
    Except CompileError (Option String) :=
  let key := trim c.key
  if key.isEmpty then .ok none
  else if c.predicate = .script then
    match c.operand with
    | some (.range _ _) => .error (.syntaxFault (.scriptRange key))
    | _ => do return some (fill lit (← scope.script key) ((operands c).map Value.bound)).1
  else do
    let v ← value scope.entity key c.operand
    if hasChar '?' key then return some (fill lit (← scope.script key) [v.bound]).1
    else if isElided scope.entity key v then return none
    else
      match scope.entity.property? key with
      | none => throw (.unmappedProperty scope.entity.name key)
      | some p => do
        let w ← stored scope.entity key p v
        return some (p.column ++ " = " ++ lit w.bound)

theorem Gives.bindings (gives : Gives scope c b) :
    bindings scope c = b.toList.flatMap Fragment.values := by
  rw [Assignment.bindings]
  cases gives with
  | blank blank => simp [blank]
  | script named isScript => simp [named, isScript, Piece.values]
  | placeholder named notScript holds is => simp [named, notScript, holds, is, Piece.values]
  | elided named notScript lacks is elided => simp [named, notScript, lacks, is, elided]
  | property named notScript lacks is kept known ofStored =>
    simp [named, notScript, lacks, is, kept, known, ofStored, Except.toOption, Piece.values]

theorem Gives.spelled (gives : Gives scope c b) (lit : Value → String) :
    spelled lit scope c = .ok (b.map (Fragment.filled lit)) := by
  rw [Assignment.spelled]
  cases gives with
  | blank blank => simp [blank]
  | script named isScript whole resolved =>
    rcases given : c.operand with _ | v | vs | ⟨min, max⟩
    case some.range => exact absurd given (whole min max)
    all_goals
      simp [named, isScript, resolved, bind, Except.bind, pure, Except.pure, Piece.filled]
  | placeholder named notScript holds is resolved =>
    simp [named, notScript, holds, is, resolved, bind, Except.bind, pure, Except.pure, Piece.filled]
  | elided named notScript lacks is elided =>
    simp [named, notScript, lacks, is, elided, bind, Except.bind, pure, Except.pure]
  | property named notScript lacks is kept known ofStored =>
    simp [named, notScript, lacks, is, kept, known, ofStored, bind, Except.bind, pure, Except.pure,
      Piece.filled, String.append_assoc]

end Assignment

end BoundQuery
