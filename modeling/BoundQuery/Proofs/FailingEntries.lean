import BoundQuery.Proofs.EpochMillis
import BoundQuery.Proofs.IllFormedLeaves
import BoundQuery.Proofs.InkedText
import BoundQuery.Proofs.UnresolvedNames
import BoundQuery.Proofs.WhereClauses

/-!
# When an update fails

An entry of an update is left out, fails or gives an assignment. What makes it fail is said here
without the compiler: an operand that gives no single value, a script with the name of no entity, a
property that is not known, an integer that is no moment. The first entry that fails decides the
error of the update; then the first ill-formed condition does; and an update is empty exactly when
all its entries are left out.

## Main definitions

* `Outcome.FirstError`, the error of the first in a list that has one
* `Catalog.missing?`, the first name in a script that stands for no entity
* `Assignment.isLeftOut`, the entries that set nothing
* `Assignment.Fails`, the entries that fail, with their errors
* `Update.Ends`, how an update ends

## Main results

* `Scope.script_eq_error_iff` — the scripts of an update that do not resolve
* `Assignment.ofEntry_eq_none_iff`, `Assignment.ofEntry_eq_error_iff` — entries that are left out
  and entries that fail
* `Update.outcome_eq_iff_ends` — the outcome of an update is read off its entries and conditions
-/

namespace BoundQuery

open Text Outcome

/-! ### First errors -/

namespace Outcome

variable {ε α β : Type}

/-- The error of the first in a list that has one. -/
def FirstError (Fails : α → ε → Prop) (xs : List α) (error : ε) : Prop :=
  ∃ before x after, xs = before ++ x :: after ∧ (∀ y ∈ before, ∀ e, ¬ Fails y e) ∧ Fails x error

theorem fault?_eq_none {x : Except ε α} : fault? x = none ↔ ∃ a, x = .ok a := by
  cases x with
  | error e => simp
  | ok a => simp

/-- A list of steps fails as the first of them that fails. -/
theorem fault?_mapM {f : α → Except ε β} {xs : List α} :
    fault? (xs.mapM f) = xs.findSome? fun x => fault? (f x) := by
  induction xs with
  | nil => rfl
  | cons x xs ih =>
    rw [List.mapM_cons, List.findSome?_cons, ← ih]
    cases f x with
    | error e => rfl
    | ok y =>
      cases xs.mapM f with
      | error e => rfl
      | ok ys => rfl

theorem fault?_bind_pure {x : Except ε α} {f : α → β} :
    fault? (x >>= fun a => pure (f a)) = fault? x := by
  cases x with
  | error e => rfl
  | ok a => rfl

section

variable {f : α → Except ε β} {Fails : α → ε → Prop} (describes : ∀ x e, f x = .error e ↔ Fails x e)
include describes

theorem fault?_eq_none_of_describes (x : α) : fault? (f x) = none ↔ ∀ e, ¬ Fails x e := by
  simp only [Option.eq_none_iff_forall_ne_some, ne_eq, fault?_eq_some, describes]

/-- The first fault, where faults have a description of their own. -/
theorem findSome?_fault?_eq_some_iff {xs : List α} {error : ε} :
    (xs.findSome? fun x => fault? (f x)) = some error ↔ FirstError Fails xs error := by
  rw [List.findSome?_eq_some_iff]
  simp only [FirstError, fault?_eq_some, describes, fault?_eq_none_of_describes describes]
  refine exists_congr fun before => exists_congr fun x => exists_congr fun after => ?_
  exact and_congr_right fun _ => and_comm

theorem findSome?_fault?_eq_none_iff {xs : List α} :
    (xs.findSome? fun x => fault? (f x)) = none ↔ ∀ x ∈ xs, ∀ e, ¬ Fails x e := by
  simp only [List.findSome?_eq_none_iff, fault?_eq_none_of_describes describes]

end

end Outcome

/-! ### Scripts that do not resolve -/

/-- The first name in a script, in front of the dot of a key, that stands for no entity. -/
def Catalog.missing? (catalog : Catalog) (script : String) : Option String :=
  (Scope.qualifiersOf script).find? fun name => (catalog.lookup? name).isNone

namespace Scope

variable {s : Scope} {text : String} {error : CompileError}

theorem fault?_key :
    fault? (s.key text) = (qualifierOf? text).bind fun a => fault? (s.qualified a) := by
  rw [key, qualifierOf?]
  cases cutAt '.' (trim text) with
  | none => rfl
  | some parts =>
    obtain ⟨qualifier, property⟩ := parts
    dsimp only
    split
    · exact fault?_bind_pure
    · rfl

theorem fault?_token : fault? (s.token text) =
    (qualifierOf? (String.ofList (tokenParts text.toList).2.1)).bind fun a =>
      fault? (s.qualified a) := by
  rw [token]
  split
  · next parts => rw [parts]; rfl
  · next outer core trailer _ parts => rw [fault?_bind_pure, fault?_key, parts]

/-- A script fails as the first of its qualifiers that stands for nothing. -/
theorem fault?_script :
    fault? (s.script text) = (qualifiersOf text).findSome? fun a => fault? (s.qualified a) := by
  rw [script, fault?_bind_pure, fault?_mapM, qualifiersOf, ← List.head?_filterMap,
    ← List.head?_filterMap, List.filterMap_filterMap]
  simp only [fault?_token]

theorem fault?_qualified (undeclared : s.aliases = .empty) (name : String) :
    fault? (s.qualified name) =
      (Option.guard (fun a => (s.catalog.lookup? a).isNone) name).map .unresolvedEntity := by
  have itself : (s.aliases.find? name).getD name = name := by rw [undeclared]; rfl
  rw [qualified, itself, Option.guard]
  cases s.catalog.lookup? name with
  | none => rfl
  | some e => rfl

/-- Where no names are declared, a script does not resolve exactly when it names an entity that is
not registered, and the first such name is reported. -/
theorem script_eq_error_iff (undeclared : s.aliases = .empty) : s.script text = .error error ↔
    ∃ name, s.catalog.missing? text = some name ∧ error = .unresolvedEntity name := by
  have faults : fault? (s.script text) = (s.catalog.missing? text).map .unresolvedEntity := by
    rw [fault?_script, Catalog.missing?, List.find?_eq_findSome?_guard, List.map_findSome?]
    exact congrArg (List.findSome? · _) (funext (fault?_qualified undeclared))
  rw [← fault?_eq_some, faults, Option.map_eq_some_iff]
  exact exists_congr fun name => and_congr_right fun _ => eq_comm

end Scope

/-! ### Entries -/

namespace Assignment

/-- Does the operand give a property nothing to set? No operand, a null, the empty text and the
default of the column do. -/
def isUnset (e : Entity) (name : String) : Option Operand → Bool
  | none => true
  | some (.value v) => isElided e name v
  | some (.list _) => false
  | some (.range _ _) => false

/-- Is the entry left out? One with a blank key is, and one that gives a property nothing to set. -/
def isLeftOut (e : Entity) (c : Condition) : Bool :=
  isBlankText c.key ||
    c.predicate ≠ .script && !hasChar '?' (trim c.key) && isUnset e (trim c.key) c.operand

/-- Operands without a single value: a range, and a list unless the key is a property that holds
JSON. -/
inductive Plural (e : Entity) (name : String) : Option Operand → Prop where
  | range {min max : Value} : Plural e name (some (.range min max))
  | list {vs : List Value} (plain : ∀ p, e.property? name = some p → p.json = false) :
    Plural e name (some (.list vs))

/-- What is wrong with an entry that is not left out, with the error. Of several faults the first in
this order is reported. -/
inductive Fault (scope : Scope) (c : Condition) : CompileError → Prop where
  | scriptRange {min max : Value} (isScript : c.predicate = .script)
    (given : c.operand = some (.range min max)) :
    Fault scope c (.syntaxFault (.scriptRange (trim c.key)))
  | script {name : String} (isScript : c.predicate = .script)
    (whole : ∀ min max, c.operand ≠ some (.range min max))
    (missing : scope.catalog.missing? (trim c.key) = some name) :
    Fault scope c (.unresolvedEntity name)
  | operand (notScript : c.predicate ≠ .script)
    (plural : Plural scope.entity (trim c.key) c.operand) :
    Fault scope c (.syntaxFault (.assignmentNeedsValue (trim c.key)))
  | placeholder {name : String} (notScript : c.predicate ≠ .script)
    (single : ¬ Plural scope.entity (trim c.key) c.operand) (holds : hasChar '?' (trim c.key))
    (missing : scope.catalog.missing? (trim c.key) = some name) :
    Fault scope c (.unresolvedEntity name)
  | unmapped (notScript : c.predicate ≠ .script)
    (single : ¬ Plural scope.entity (trim c.key) c.operand)
    (lacks : hasChar '?' (trim c.key) = false)
    (unknown : scope.entity.property? (trim c.key) = none) :
    Fault scope c (.unmappedProperty scope.entity.name (trim c.key))
  | millis {p : Property} {i : Int64} (notScript : c.predicate ≠ .script)
    (lacks : hasChar '?' (trim c.key) = false) (given : c.operand = some (.value (.int i)))
    (known : scope.entity.property? (trim c.key) = some p) (plain : p.json = false)
    (temporal : p.type.isTemporal)
    (outside : i.toInt < -8334601228800000 ∨ 8210266876799999 < i.toInt) :
    Fault scope c (.syntaxFault (.millisOutOfRange scope.entity.name (trim c.key) i.toInt))

/-- The entries that fail, with their errors. -/
def Fails (scope : Scope) (c : Condition) (error : CompileError) : Prop :=
  isLeftOut scope.entity c = false ∧ Fault scope c error

variable {scope : Scope} {c : Condition} {e : Entity} {name : String} {operand : Option Operand}
  {error : CompileError}

theorem value_eq_error_iff : value e name operand = .error error ↔
    Plural e name operand ∧ error = .syntaxFault (.assignmentNeedsValue name) := by
  constructor
  · intro failed
    rcases operand with _ | v | vs | ⟨min, max⟩
    · cases failed
    · cases failed
    · rw [value] at failed
      split at failed
      · cases failed
      · next plain =>
        refine ⟨.list fun p known => ?_, (Except.error.inj failed).symm⟩
        rw [known] at plain
        simpa using plain
    · exact ⟨.range, (Except.error.inj failed).symm⟩
  · rintro ⟨plural, rfl⟩
    cases plural with
    | range => rfl
    | list plain =>
      rw [value, if_neg]
      intro json
      cases known : e.property? name with
      | none => rw [known] at json; cases json
      | some p => rw [known, Option.map_some, Option.getD_some, plain p known] at json; cases json

theorem exists_value (single : ¬ Plural e name operand) : ∃ v, value e name operand = .ok v := by
  cases result : value e name operand with
  | error error => exact absurd (value_eq_error_iff.mp result).1 single
  | ok v => exact ⟨v, rfl⟩

theorem not_plural_of_value {v : Value} (is : value e name operand = .ok v) :
    ¬ Plural e name operand := by
  intro plural
  rw [value_eq_error_iff.mpr ⟨plural, rfl⟩] at is
  cases is

theorem stored_eq_error_iff {p : Property} {v : Value} : stored e name p v = .error error ↔
    ∃ i, v = .int i ∧ p.json = false ∧ p.type.isTemporal ∧
      (i.toInt < -8334601228800000 ∨ 8210266876799999 < i.toInt) ∧
      error = .syntaxFault (.millisOutOfRange e.name name i.toInt) := by
  constructor
  · intro failed
    by_cases json : p.json
    · rw [stored_of_json json] at failed
      cases failed
    · rw [Bool.not_eq_true] at json
      by_cases isMillis : ∃ i, v = .int i ∧ p.type.isTemporal
      · obtain ⟨i, rfl, temporal⟩ := isMillis
        obtain ⟨rfl, none⟩ := (stored_int_eq_error_iff json temporal).mp failed
        exact ⟨i, rfl, json, temporal, Moment.ofEpochMillis?_eq_none_iff_lt.mp none, rfl⟩
      · push Not at isMillis
        rw [stored_of_plain json fun i same => by simpa using isMillis i same] at failed
        cases failed
  · rintro ⟨i, rfl, plain, temporal, outside, rfl⟩
    exact (stored_int_eq_error_iff plain temporal).mpr
      ⟨rfl, Moment.ofEpochMillis?_eq_none_iff_lt.mpr outside⟩

/-! The four kinds of entries, as they are compiled. -/

theorem ofEntry_of_blank (blank : isBlankText c.key) : ofEntry scope c = .ok none := by
  rw [ofEntry, trim_of_blank blank]
  rfl

section

variable (given : isBlankText c.key = false)
include given

theorem isEmpty_trim : (trim c.key).isEmpty = false := by
  rw [Bool.eq_false_iff, ne_eq, String.isEmpty_iff, trim_eq_empty_iff, given]
  exact Bool.false_ne_true

theorem ofEntry_of_script (isScript : c.predicate = .script) :
    ofEntry scope c = (script scope (trim c.key) c.operand).map some := by
  rw [ofEntry, isEmpty_trim given, if_neg Bool.false_ne_true, if_pos isScript]

theorem ofEntry_of_placeholder (notScript : c.predicate ≠ .script)
    (holds : hasChar '?' (trim c.key)) :
    ofEntry scope c = (do
      let v ← value scope.entity (trim c.key) c.operand
      return some [.script (← scope.script (trim c.key)) [v]]) := by
  rw [ofEntry, isEmpty_trim given, if_neg Bool.false_ne_true, if_neg notScript]
  simp only [holds, if_true]

theorem ofEntry_of_property (notScript : c.predicate ≠ .script)
    (lacks : hasChar '?' (trim c.key) = false) :
    ofEntry scope c = (do
      let v ← value scope.entity (trim c.key) c.operand
      ofProperty scope.entity (trim c.key) v) := by
  rw [ofEntry, isEmpty_trim given, if_neg Bool.false_ne_true, if_neg notScript]
  simp only [lacks, Bool.false_eq_true, if_false]

end

theorem isLeftOut_of_script (given : isBlankText c.key = false) (isScript : c.predicate = .script) :
    isLeftOut e c = false := by
  simp [isLeftOut, given, isScript]

theorem isLeftOut_of_placeholder (given : isBlankText c.key = false)
    (holds : hasChar '?' (trim c.key)) : isLeftOut e c = false := by
  simp [isLeftOut, given, holds]

theorem isLeftOut_of_property (given : isBlankText c.key = false)
    (notScript : c.predicate ≠ .script) (lacks : hasChar '?' (trim c.key) = false) :
    isLeftOut e c = isUnset e (trim c.key) c.operand := by
  simp [isLeftOut, given, notScript, lacks]

/-- A list is never empty text or the default of a column. -/
theorem isElided_array (js : List Json) : isElided e name (.json (.arr js)) = false := by
  unfold isElided Entity.isDefault ColumnType.isDefault
  rcases e.property? name with _ | ⟨column, type, nullable, json⟩
  · rfl
  · cases nullable with
    | true => rfl
    | false => cases type <;> rfl

/-- The value to assign is elided exactly when the operand gives nothing to set. -/
theorem isElided_of_value {v : Value} (is : value e name operand = .ok v) :
    isElided e name v = isUnset e name operand := by
  rcases operand with _ | v | vs | ⟨min, max⟩
  · cases is
    rfl
  · cases is
    rfl
  · rw [value] at is
    split at is
    · cases is
      exact isElided_array _
    · cases is
  · cases is

theorem isUnset_of_plural (plural : Plural e name operand) : isUnset e name operand = false := by
  cases plural with
  | range => rfl
  | list => rfl

theorem operand_of_value_int {i : Int64} (is : value e name operand = .ok (.int i)) :
    operand = some (.value (.int i)) := by
  rcases operand with _ | v | vs | ⟨min, max⟩
  · cases is
  · cases is
    rfl
  · rw [value] at is
    split at is <;> cases is
  · cases is

theorem ofProperty_eq_error_iff {v : Value} : ofProperty e name v = .error error ↔
    isElided e name v = false ∧
      (e.property? name = none ∧ error = .unmappedProperty e.name name ∨
        ∃ p, e.property? name = some p ∧ stored e name p v = .error error) := by
  rw [ofProperty, isElided]
  split
  · next elided => simp [elided]
  · next kept =>
    rw [Bool.not_eq_true] at kept
    rw [kept]
    cases e.property? name with
    | none => simp [eq_comm]
    | some p =>
      simp only [true_and, reduceCtorEq, false_and, false_or, Option.some.injEq, exists_eq_left']
      exact bind_pure_eq_error

section

variable (undeclared : scope.aliases = .empty)
include undeclared

/-- What is wrong with a script. -/
theorem script_eq_error_iff_fault (isScript : c.predicate = .script) :
    script scope (trim c.key) c.operand = .error error ↔ Fault scope c error := by
  constructor
  · intro failed
    rcases given : c.operand with _ | v | vs | ⟨min, max⟩
    case some.range =>
      rw [given] at failed
      cases failed
      exact .scriptRange isScript given
    -- all other operands are bound, so only the script itself can fail
    all_goals
      rw [given, script, bind_pure_eq_error, Scope.script_eq_error_iff undeclared] at failed
      obtain ⟨name, missing, rfl⟩ := failed
      exact .script isScript (by simp [given]) missing
  · intro fault
    cases fault with
    | scriptRange _ given =>
      rw [given]
      rfl
    | script _ whole missing =>
      have unresolved := (Scope.script_eq_error_iff undeclared).mpr ⟨_, missing, rfl⟩
      rcases given : c.operand with _ | v | vs | ⟨min, max⟩
      case some.range => exact absurd given (whole min max)
      all_goals
        rw [script, unresolved]
        rfl
    | operand notScript => exact absurd isScript notScript
    | placeholder notScript => exact absurd isScript notScript
    | unmapped notScript => exact absurd isScript notScript
    | millis notScript => exact absurd isScript notScript

/-- What is wrong with a key that holds a placeholder. -/
theorem placeholder_eq_error_iff_fault (notScript : c.predicate ≠ .script)
    (holds : hasChar '?' (trim c.key)) :
    (do let v ← value scope.entity (trim c.key) c.operand
        return some [Piece.script (← scope.script (trim c.key)) [v]]) = .error error ↔
      Fault scope c error := by
  rw [bind_eq_error, value_eq_error_iff]
  simp only [bind_pure_eq_error, Scope.script_eq_error_iff undeclared]
  constructor
  · rintro (⟨plural, rfl⟩ | ⟨v, is, name, missing, rfl⟩)
    · exact .operand notScript plural
    · exact .placeholder notScript (not_plural_of_value is) holds missing
  · intro fault
    cases fault with
    | operand _ plural => exact .inl ⟨plural, rfl⟩
    | placeholder _ single _ missing =>
      obtain ⟨v, is⟩ := exists_value single
      exact .inr ⟨v, is, _, missing, rfl⟩
    | scriptRange isScript => exact absurd isScript notScript
    | script isScript => exact absurd isScript notScript
    | unmapped _ _ lacks => exact absurd holds (by simp [lacks])
    | millis _ lacks => exact absurd holds (by simp [lacks])

end

/-- What is wrong with an entry for a property that is not left out. -/
theorem property_eq_error_iff_fault (notScript : c.predicate ≠ .script)
    (lacks : hasChar '?' (trim c.key) = false) :
    (do let v ← value scope.entity (trim c.key) c.operand
        ofProperty scope.entity (trim c.key) v) = .error error ↔
      isUnset scope.entity (trim c.key) c.operand = false ∧ Fault scope c error := by
  rw [bind_eq_error, value_eq_error_iff]
  simp only [ofProperty_eq_error_iff, stored_eq_error_iff]
  constructor
  · rintro (⟨plural, rfl⟩ | ⟨v, is, kept, ⟨unknown, rfl⟩ |
      ⟨p, known, i, rfl, plain, temporal, outside, rfl⟩⟩)
    · exact ⟨isUnset_of_plural plural, .operand notScript plural⟩
    · refine ⟨?_, .unmapped notScript (not_plural_of_value is) lacks unknown⟩
      rw [← isElided_of_value is, kept]
    · refine ⟨?_, .millis notScript lacks (operand_of_value_int is) known plain temporal outside⟩
      rw [← isElided_of_value is, kept]
  · rintro ⟨set, fault⟩
    cases fault with
    | operand _ plural => exact .inl ⟨plural, rfl⟩
    | unmapped _ single _ unknown =>
      obtain ⟨v, is⟩ := exists_value single
      exact .inr ⟨v, is, (isElided_of_value is).trans set, .inl ⟨unknown, rfl⟩⟩
    | @millis p i _ _ given known plain temporal outside =>
      have is : value scope.entity (trim c.key) c.operand = .ok (.int i) := by rw [given]; rfl
      exact .inr ⟨.int i, is, (isElided_of_value is).trans set,
        .inr ⟨p, known, i, rfl, plain, temporal, outside, rfl⟩⟩
    | scriptRange isScript => exact absurd isScript notScript
    | script isScript => exact absurd isScript notScript
    | placeholder _ _ holds => exact absurd holds (by simp [lacks])

/-- An entry fails exactly when something is wrong with it, and it is not left out. -/
theorem ofEntry_eq_error_iff (undeclared : scope.aliases = .empty) :
    ofEntry scope c = .error error ↔ Fails scope c error := by
  by_cases blank : isBlankText c.key
  · rw [ofEntry_of_blank blank, Fails, isLeftOut, blank]
    simp
  rw [Bool.not_eq_true] at blank
  by_cases isScript : c.predicate = .script
  · rw [ofEntry_of_script blank isScript, Fails, isLeftOut_of_script blank isScript,
      ← script_eq_error_iff_fault undeclared isScript, ← fault?_eq_some, fault?_map, fault?_eq_some]
    exact (and_iff_right rfl).symm
  -- neither scripts nor keys with a placeholder are ever left out; properties may be
  by_cases holds : hasChar '?' (trim c.key)
  · rw [ofEntry_of_placeholder blank isScript holds, Fails, isLeftOut_of_placeholder blank holds,
      placeholder_eq_error_iff_fault undeclared isScript holds]
    exact (and_iff_right rfl).symm
  · rw [Bool.not_eq_true] at holds
    rw [ofEntry_of_property blank isScript holds, Fails, isLeftOut_of_property blank isScript holds,
      property_eq_error_iff_fault isScript holds]

/-- What an entry gives, when it does not fail. -/
theorem ofEntry_eq_ok_iff {b : Option Fragment} : ofEntry scope c = .ok b ↔ Gives scope c b := by
  refine ⟨gives_of_ofEntry, fun gives => ?_⟩
  -- a blank key gives nothing, whatever else the entry holds
  by_cases blank : isBlankText c.key
  · rw [ofEntry_of_blank blank]
    have unnamed := trim_of_blank blank
    cases gives with
    | blank => rfl
    | elided => rfl
    | script named => exact absurd unnamed named
    | placeholder named => exact absurd unnamed named
    | property named => exact absurd unnamed named
  rw [Bool.not_eq_true] at blank
  cases gives with
  | blank unnamed =>
    rw [trim_eq_empty_iff, blank] at unnamed
    cases unnamed
  | script _ isScript whole resolved =>
    rw [ofEntry_of_script blank isScript]
    rcases given : c.operand with _ | v | vs | ⟨min, max⟩
    case some.range => exact absurd given (whole min max)
    all_goals
      rw [operands, given, script, resolved]
      rfl
  | placeholder _ notScript holds is resolved =>
    rw [ofEntry_of_placeholder blank notScript holds, is, resolved]
    rfl
  | elided _ notScript lacks is elided =>
    rw [ofEntry_of_property blank notScript lacks, is, ok_bind, ofProperty]
    exact if_pos elided
  | property _ notScript lacks is kept known ofStored =>
    rw [isElided] at kept
    rw [ofEntry_of_property blank notScript lacks, is, ok_bind, ofProperty, kept, known]
    simp only [Bool.false_eq_true, if_false, ofStored]
    rfl

/-- The entries that give nothing are those left out. -/
theorem ofEntry_eq_none_iff : ofEntry scope c = .ok none ↔ isLeftOut scope.entity c := by
  rw [ofEntry_eq_ok_iff]
  constructor
  · intro gives
    cases gives with
    | blank unnamed =>
      rw [trim_eq_empty_iff] at unnamed
      rw [isLeftOut, unnamed, Bool.true_or]
    | elided named notScript lacks is elided =>
      rw [ne_eq, trim_eq_empty_iff, Bool.not_eq_true] at named
      rw [isLeftOut_of_property named notScript lacks, ← isElided_of_value is, elided]
  · intro leftOut
    by_cases blank : isBlankText c.key
    · exact .blank (trim_of_blank blank)
    simp only [isLeftOut, blank, Bool.false_or, Bool.and_eq_true, decide_eq_true_eq,
      Bool.not_eq_true'] at leftOut
    obtain ⟨⟨notScript, lacks⟩, unset⟩ := leftOut
    -- an operand with nothing to set is not one of several values, so there is a value to leave out
    have single : ¬ Plural scope.entity (trim c.key) c.operand := by
      intro plural
      rw [isUnset_of_plural plural] at unset
      cases unset
    obtain ⟨v, is⟩ := exists_value single
    refine .elided ?_ notScript lacks is ((isElided_of_value is).trans unset)
    rwa [ne_eq, trim_eq_empty_iff]

/-- Of the entries that give something, each gives one assignment, in order. -/
theorem forall₂_kept {cs : List Condition} {entries : List (Option Fragment)}
    (gives : List.Forall₂ (fun c b => ofEntry scope c = .ok b) cs entries) :
    List.Forall₂ (fun c g => Gives scope c (some g))
      (cs.filter fun c => !isLeftOut scope.entity c) (entries.filterMap id) := by
  induction gives with
  | nil => exact .nil
  | @cons c b cs bs first _ ih =>
    cases b with
    | none =>
      rw [List.filter_cons, ofEntry_eq_none_iff.mp first]
      exact ih
    | some g =>
      have kept : isLeftOut scope.entity c = false := by
        rw [Bool.eq_false_iff, ne_eq, ← ofEntry_eq_none_iff, first]
        simp
      rw [List.filter_cons, kept]
      exact .cons (ofEntry_eq_ok_iff.mp first) ih

theorem filterMap_eq_nil_iff {cs : List Condition} {entries : List (Option Fragment)}
    (gives : List.Forall₂ (fun c b => ofEntry scope c = .ok b) cs entries) :
    entries.filterMap id = [] ↔ ∀ c ∈ cs, isLeftOut scope.entity c := by
  rw [← List.length_eq_zero_iff, ← (forall₂_kept gives).length_eq, List.length_eq_zero_iff,
    List.filter_eq_nil_iff]
  simp

theorem Gives.unique {b b' : Option Fragment} (gives : Gives scope c b)
    (gives' : Gives scope c b') : b = b' := by
  rw [← ofEntry_eq_ok_iff] at gives gives'
  exact Except.ok.inj (gives.symm.trans gives')

end Assignment

/-! ### Updates -/

namespace Update

open Assignment

/-- How an update of an entity ends. The first entry that fails decides; if none does, the first
ill-formed leaf of the conditions that are left after pruning; without either, an update whose
entries are all left out is empty, and any other one has an assignment for each entry that is not
left out, in order. -/
inductive Ends (catalog : Catalog) (d : Dialect) (e : Entity) (u : Update) :
    Except CompileError UpdateStatement → Prop where
  | entry {error : CompileError}
    (first : FirstError (Fails (scope catalog e)) u.assignments error) :
    Ends catalog d e u (.error error)
  | condition {error : CompileError}
    (sound : ∀ c ∈ u.assignments, ∀ error, ¬ Fails (scope catalog e) c error)
    (first : FirstError (Filter.IllFormed ⟨scope catalog e, d⟩)
      (Condition.leaves ((scope catalog e).pruned u.conditions)) error) :
    Ends catalog d e u (.error error)
  | nothing {filter : Fragment} (leftOut : ∀ c ∈ u.assignments, isLeftOut e c)
    (ofFilter : Filter.compile ⟨scope catalog e, d⟩ .fragment
      ((scope catalog e).pruned u.conditions) = .ok filter) :
    Ends catalog d e u (.error (.emptyUpdate (UpdateStatement.sql ⟨e.table, [], filter⟩)))
  | statement {gs : List Fragment} {filter : Fragment}
    (sound : ∀ c ∈ u.assignments, ∀ error, ¬ Fails (scope catalog e) c error)
    (ofFilter : Filter.compile ⟨scope catalog e, d⟩ .fragment
      ((scope catalog e).pruned u.conditions) = .ok filter)
    (kept : ∃ c ∈ u.assignments, isLeftOut e c = false)
    (each : List.Forall₂ (fun c g => Gives (scope catalog e) c (some g))
      (u.assignments.filter fun c => !isLeftOut e c) gs) :
    Ends catalog d e u (.ok ⟨e.table, gs, filter⟩)

variable {u : Update} {catalog : Catalog} {d : Dialect} {e : Entity} {error : CompileError}

/-- The entries come first: if one fails, the update fails alike. -/
theorem outcome_compile_of_error (found : catalog.lookup? u.entity = some e)
    (failed : u.assignments.mapM (ofEntry (scope catalog e)) = .error error) :
    (u.compile catalog d).outcome = .error error := by
  rw [scope] at failed
  rw [compile]
  simp only [found, Attempt.outcome_bind, Attempt.outcome_lift, failed]
  rfl

theorem entries_eq_error_iff :
    u.assignments.mapM (ofEntry (scope catalog e)) = .error error ↔
      FirstError (Fails (scope catalog e)) u.assignments error := by
  rw [← fault?_eq_some, fault?_mapM]
  exact findSome?_fault?_eq_some_iff fun c error => ofEntry_eq_error_iff rfl

theorem exists_entries_iff :
    (∃ entries, u.assignments.mapM (ofEntry (scope catalog e)) = .ok entries) ↔
      ∀ c ∈ u.assignments, ∀ error, ¬ Fails (scope catalog e) c error := by
  rw [← fault?_eq_none, fault?_mapM]
  exact findSome?_fault?_eq_none_iff fun c error => ofEntry_eq_error_iff rfl

theorem filter_eq_error_iff {f : Filter} {cs : List Condition} :
    f.compile .fragment cs = .error error ↔ FirstError f.IllFormed (Condition.leaves cs) error := by
  rw [← fault?_eq_some, Filter.fault?_compile]
  exact findSome?_fault?_eq_some_iff fun c error => Filter.leafBody_eq_error_iff

theorem outcome_of_ends {r : Except CompileError UpdateStatement}
    (found : catalog.lookup? u.entity = some e) (ends : Ends catalog d e u r) :
    (u.compile catalog d).outcome = r := by
  cases ends with
  | entry first => exact outcome_compile_of_error found (entries_eq_error_iff.mpr first)
  | condition sound first =>
    obtain ⟨entries, given⟩ := exists_entries_iff.mpr sound
    rw [outcome_compile d found given, filter_eq_error_iff.mpr first]
    rfl
  | nothing leftOut ofFilter =>
    have given : u.assignments.mapM (ofEntry (scope catalog e)) =
        .ok (u.assignments.map fun _ => none) :=
      mapM_eq_map fun c member => ofEntry_eq_none_iff.mpr (leftOut c member)
    have none : (u.assignments.map fun _ => (none : Option Fragment)).filterMap id = [] := by simp
    rw [outcome_compile d found given, ofFilter, ok_bind, if_pos none, none]
  | statement sound ofFilter kept each =>
    obtain ⟨entries, given⟩ := exists_entries_iff.mpr sound
    have same := forall₂_kept (mapM_eq_ok_iff.mp given)
    -- both lists of assignments answer to the same entries, so they are one
    have unique : Relator.RightUnique fun c g => Gives (scope catalog e) c (some g) :=
      fun _ _ _ gives gives' => Option.some.inj (gives.unique gives')
    obtain rfl := unique.forall₂ each same
    rw [outcome_compile d found given, ofFilter, ok_bind, if_neg]
    rw [filterMap_eq_nil_iff (mapM_eq_ok_iff.mp given)]
    intro leftOut
    obtain ⟨c, member, kept⟩ := kept
    exact Bool.false_ne_true (kept.symm.trans (leftOut c member))

/-- Each update ends in some way. -/
theorem exists_ends (catalog : Catalog) (d : Dialect) (e : Entity) (u : Update) :
    ∃ r, Ends catalog d e u r := by
  cases given : u.assignments.mapM (ofEntry (scope catalog e)) with
  | error error => exact ⟨_, .entry (entries_eq_error_iff.mp given)⟩
  | ok entries =>
    -- no entry fails from here on
    have sound := exists_entries_iff.mp ⟨entries, given⟩
    rw [mapM_eq_ok_iff] at given
    cases ofFilter : Filter.compile ⟨scope catalog e, d⟩ .fragment
        ((scope catalog e).pruned u.conditions) with
    | error error => exact ⟨_, .condition sound (filter_eq_error_iff.mp ofFilter)⟩
    | ok filter =>
      by_cases leftOut : ∀ c ∈ u.assignments, isLeftOut e c
      · exact ⟨_, .nothing leftOut ofFilter⟩
      · push Not at leftOut
        simp only [Bool.not_eq_true] at leftOut
        exact ⟨_, .statement sound ofFilter leftOut (forall₂_kept given)⟩

/-- An update of a registered entity ends as its entries and conditions say. -/
theorem outcome_eq_iff_ends {r : Except CompileError UpdateStatement}
    (found : catalog.lookup? u.entity = some e) :
    (u.compile catalog d).outcome = r ↔ Ends catalog d e u r := by
  refine ⟨fun outcome => ?_, outcome_of_ends found⟩
  obtain ⟨r', ends⟩ := exists_ends catalog d e u
  rw [outcome_of_ends found ends] at outcome
  rwa [← outcome]

end Update

namespace Ledger

/-- An update whose entries are left out: a null for a property that is not known, a blank key and
the default of a column. -/
def idle : Update where
  entity := "Account"
  assignments := [.withValue .eq "nickname" .null, .oneOf " " [.int 1],
    .withValue .eq "amount" (.int 0)]
  conditions := [.withValue .eq "id" (.int 7)]

/-- An update with two entries that fail and an ill-formed condition. -/
def overdue : Update where
  entity := "Account"
  assignments := idle.assignments ++ [.withValue .eq "closedAt" (.int 8210266876800000),
    .withValue .eq "nickname" (.text "savings")]
  conditions := [.oneOf "id" []]

end Ledger

/-- Where the first entry that fails is one behind the last moment, and where nothing is set. -/
theorem Update.outcome_eq_iff_ends_idle :
    (Ledger.overdue.compile Ledger.catalog .mysql).outcome =
        .error (.syntaxFault (.millisOutOfRange "Account" "closedAt" 8210266876800000)) ∧
      (Ledger.idle.compile Ledger.catalog .mysql).outcome =
        .error (.emptyUpdate "UPDATE t_account SET  WHERE id = ?") := by
  have leftOut : ∀ c ∈ Ledger.idle.assignments, Assignment.isLeftOut Ledger.account c := by
    decide +kernel
  constructor
  · refine (outcome_eq_iff_ends (e := Ledger.account) rfl).mpr (.entry ⟨_, _, _, rfl, ?_, ?_⟩)
    · rintro c member error ⟨kept, -⟩
      exact Bool.false_ne_true (kept.symm.trans (leftOut c member))
    · exact ⟨by decide +kernel, .millis (i := 8210266876800000) (by decide) (by decide +kernel) rfl
        rfl rfl rfl (.inr (by decide))⟩
  · let f : Filter := ⟨scope Ledger.catalog Ledger.account, .mysql⟩
    let conditions := f.scope.pruned Ledger.idle.conditions
    obtain ⟨filter, ofFilter⟩ := exists_of_isOk (x := f.compile .fragment conditions)
      (by decide +kernel)
    have text : ((f.compile .fragment conditions).toOption.map fun filter =>
        UpdateStatement.sql ⟨"t_account", [], filter⟩) =
        some "UPDATE t_account SET  WHERE id = ?" := by decide +kernel
    rw [ofFilter] at text
    rw [← Option.some.inj text]
    exact (outcome_eq_iff_ends (e := Ledger.account) rfl).mpr (.nothing leftOut ofFilter)

end BoundQuery
