import BoundQuery.Proofs.FailingEntries
import BoundQuery.Proofs.LegibleConditions

/-!
# Defaults that are stored

An assignment is left out by the value that is given, before the column turns it into what it
stores. So a value may be kept although what it binds is empty or the default of its column. Only
two kinds of values are: the constant without a name, which is bound as empty text, and the
milliseconds of the first day after the epoch, which a column of dates stores as the epoch. All
other assignments are stable: setting again what was bound gives the same statement.

## Main definitions

* `Assignment.Binds`, what a value that is kept binds
* `Assignment.BindsDefault`, `Assignment.Lapses`, the values that bind a default and those that bind
  something to be left out
* `Assignment.Sets`, the entries that set a property

## Main results

* `Assignment.binds_of_stored` — what is bound for a value that is kept
* `Assignment.Binds.isDefault_iff`, `Assignment.Binds.isElided_iff` — when that is the default of
  its column, and when it would be left out
* `Update.binds_default_iff` — the same for each entry of an update that sets a property
-/

namespace BoundQuery

open Text Outcome

/-! ### Content of JSON columns -/

theorem Json.compact_ne_empty (j : Json) : j.compact ≠ "" := by
  rw [compact.eq_def]
  cases j with
  | null => decide
  | bool b => cases b <;> decide
  | int i => exact intText_ne_empty i
  | float x =>
    cases x with
    | finite => exact NumberStyle.write_ne_empty
    | nan | infinity => exact (by decide : "null" ≠ "")
  | str s => simp [quoted, String.ofList_eq_empty_iff]
  | arr items => simp
  | obj members => simp

theorem Value.contentText_ne_empty {v : Value} (filled : v.isNullOrEmpty = false) :
    v.contentText ≠ "" := by
  cases v with
  | text s => simpa [isNullOrEmpty, contentText] using filled
  | _ => exact Json.compact_ne_empty _

theorem Value.bound_bound (v : Value) : v.bound.bound = v.bound := by
  cases v <;> rfl

/-! ### The epoch -/

/-- The milliseconds of the first day give the date of the epoch. -/
theorem Moment.date_eq_epoch_iff {millis : Int} {t : Moment}
    (found : ofEpochMillis? millis = some t) :
    t.date = Date.epoch ↔ 0 ≤ millis ∧ millis < 86400000 := by
  obtain ⟨valid, number⟩ := Moment.exists_ofEpochMillis?_date_iff.mp ⟨t, found, rfl⟩
  have onEpoch : Date.epoch.OnCalendar := ⟨by decide, by decide⟩
  constructor
  · intro same
    rw [same, Date.epochDays_epoch] at number
    omega
  · intro firstDay
    refine Date.eq_of_epochDays_eq (Date.valid_iff.mp valid).2 onEpoch ?_
    rw [number, Date.epochDays_epoch]
    omega

theorem Moment.eq_epoch_iff {millis : Int} {t : Moment} (found : ofEpochMillis? millis = some t) :
    t = Moment.epoch ↔ millis = 0 := by
  constructor
  · rintro rfl
    have distance := (ofEpochMillis?_eq_some_iff.mp found).2
    have none : epoch.sinceEpoch = 0 := by decide
    omega
  · rintro rfl
    have start : ofEpochMillis? 0 = some epoch := by decide
    exact Option.some.inj (found.symm.trans start)

/-! ### Defaults of columns -/

namespace ColumnType

variable {t : ColumnType} {nullable : Bool}

theorem isDefault_text {s : String} :
    t.isDefault nullable (.text s) ↔ nullable = false ∧ t = .string ∧ s = "" := by
  unfold isDefault
  cases nullable <;> cases t <;> simp [Value.isNull]

theorem isDefault_date {d : Date} :
    t.isDefault nullable (.date d) ↔ nullable = false ∧ t = .date ∧ d = .epoch := by
  unfold isDefault
  cases nullable <;> cases t <;> simp [Value.isNull]

theorem isDefault_moment {m : Moment} :
    t.isDefault nullable (.moment m) ↔ nullable = false ∧ t = .datetime ∧ m = .epoch := by
  unfold isDefault
  cases nullable <;> cases t <;> simp [Value.isNull]

/-- Zero is the default of a temporal column. -/
theorem isDefault_zero (required : nullable = false) (temporal : t.isTemporal) :
    t.isDefault nullable (.int 0) := by
  unfold isDefault
  rw [required]
  cases t <;> cases temporal <;> rfl

end ColumnType

namespace Assignment

variable {e : Entity} {name : String} {p : Property} {v w x : Value}

/-- What a value that is kept binds: text in a column that holds JSON, a date or a moment for an
integer in a column of those, the name of a constant, and any other value itself. -/
inductive Binds (p : Property) : Value → Value → Prop where
  | json {v : Value} {s : String} (json : p.json) (filled : s ≠ "") : Binds p v (.text s)
  | date {i : Int64} {t : Moment} (plain : p.json = false) (isDate : p.type = .date)
    (nonzero : p.nullable = false → i.toInt ≠ 0) (found : Moment.ofEpochMillis? i.toInt = some t) :
    Binds p (.int i) (.date t.date)
  | moment {i : Int64} {t : Moment} (plain : p.json = false) (isDatetime : p.type = .datetime)
    (nonzero : p.nullable = false → i.toInt ≠ 0) (found : Moment.ofEpochMillis? i.toInt = some t) :
    Binds p (.int i) (.moment t)
  | constant {name : String} (plain : p.json = false) : Binds p (.constant name) (.text name)
  | same {v : Value} (plain : p.json = false) (other : ∀ name, v ≠ .constant name)
    (untimed : ∀ i, v = .int i → p.type.isTemporal = false)
    (kept : v.isNullOrEmpty = false ∧ p.type.isDefault p.nullable v = false) : Binds p v v

/-- The values that bind the default of their column although they are none. -/
inductive BindsDefault (p : Property) : Value → Prop where
  | unnamed (plain : p.json = false) (required : p.nullable = false) (isText : p.type = .string) :
    BindsDefault p (.constant "")
  | firstDay {i : Int64} (plain : p.json = false) (required : p.nullable = false)
    (isDate : p.type = .date) (later : 0 < i.toInt) (within : i.toInt < 86400000) :
    BindsDefault p (.int i)

/-- The values that are kept although what they bind would be left out. -/
inductive Lapses (p : Property) : Value → Prop where
  | unnamed (plain : p.json = false) : Lapses p (.constant "")
  | default {v : Value} (binds : BindsDefault p v) : Lapses p v

theorem isElided_eq (known : e.property? name = some p) :
    isElided e name v = (v.isNullOrEmpty || p.type.isDefault p.nullable v) := by
  rw [isElided, Entity.isDefault, known]

/-- What is bound for a value that is kept. -/
theorem binds_of_stored (known : e.property? name = some p) (kept : isElided e name v = false)
    (ofStored : stored e name p v = .ok w) : Binds p v w.bound := by
  rw [isElided_eq known, Bool.or_eq_false_iff] at kept
  by_cases json : p.json
  · rw [stored_of_json json] at ofStored
    cases ofStored
    exact .json json (Value.contentText_ne_empty kept.1)
  rw [Bool.not_eq_true] at json
  by_cases isMillis : ∃ i, v = .int i ∧ p.type.isTemporal
  · obtain ⟨i, rfl, temporal⟩ := isMillis
    obtain ⟨t, found, rfl⟩ := (stored_int_eq_ok_iff json temporal).mp ofStored
    -- zero would have been left out as the default of the column
    have nonzero : p.nullable = false → i.toInt ≠ 0 := by
      intro required zero
      rw [show i = 0 from Int64.toInt_inj.mp zero, ColumnType.isDefault_zero required temporal]
        at kept
      cases kept.2
    split
    · next isDate => exact .date json isDate nonzero found
    · next notDate =>
      have isDatetime : p.type = .datetime := by
        cases type : p.type <;> simp_all [ColumnType.isTemporal]
      exact .moment json isDatetime nonzero found
  · push Not at isMillis
    have untimed : ∀ i, v = .int i → p.type.isTemporal = false := by simpa using isMillis
    rw [stored_of_plain json untimed] at ofStored
    cases ofStored
    cases v with
    | constant name => exact .constant json
    | _ => exact .same json (by simp) untimed kept

/-- What is bound is stored as it is. -/
theorem Binds.stored_eq (binds : Binds p v x) : stored e name p x = .ok x := by
  cases binds with
  | json json => exact stored_of_json json _
  | date plain | moment plain | constant plain => exact stored_of_plain plain (by simp)
  | same plain other untimed => exact stored_of_plain plain untimed

/-- The values that bind a default, in full. -/
theorem Binds.isDefault_iff (binds : Binds p v x) :
    p.type.isDefault p.nullable x ↔ BindsDefault p v := by
  cases binds with
  | json json filled =>
    rw [ColumnType.isDefault_text]
    constructor
    · rintro ⟨-, -, rfl⟩
      exact absurd rfl filled
    · rintro (⟨plain⟩ | ⟨plain⟩) <;> simp [json] at plain
  | date plain isDate nonzero found =>
    rw [ColumnType.isDefault_date, Moment.date_eq_epoch_iff found]
    constructor
    · rintro ⟨required, -, first, within⟩
      have := nonzero required
      exact .firstDay plain required isDate (by omega) within
    · rintro (_ | ⟨-, required, -, later, within⟩)
      exact ⟨required, isDate, by omega, within⟩
  | moment plain isDatetime nonzero found =>
    rw [ColumnType.isDefault_moment, Moment.eq_epoch_iff found]
    constructor
    · rintro ⟨required, -, zero⟩
      exact absurd zero (nonzero required)
    · rintro (_ | ⟨-, -, isDate⟩)
      rw [isDatetime] at isDate
      cases isDate
  | constant plain =>
    rw [ColumnType.isDefault_text]
    constructor
    · rintro ⟨required, isText, rfl⟩
      exact .unnamed plain required isText
    · rintro (⟨-, required, isText⟩)
      exact ⟨required, isText, rfl⟩
  | same plain other untimed kept =>
    rw [kept.2]
    constructor
    · intro elided
      cases elided
    · rintro (_ | ⟨-, -, isDate⟩)
      · exact absurd rfl (other "")
      · have := untimed _ rfl
        rw [isDate] at this
        cases this

theorem Binds.isElided_iff (known : e.property? name = some p) (binds : Binds p v x) :
    isElided e name x ↔ Lapses p v := by
  rw [isElided_eq known, Bool.or_eq_true, binds.isDefault_iff]
  constructor
  · rintro (empty | default)
    · cases binds with
      | json _ filled => exact absurd (by simpa [Value.isNullOrEmpty] using empty) filled
      | date | moment => cases empty
      | @constant name plain =>
        obtain rfl : name = "" := by simpa [Value.isNullOrEmpty] using empty
        exact .unnamed plain
      | same plain other untimed kept =>
        rw [kept.1] at empty
        cases empty
    · exact .default default
  · intro lapses
    cases lapses with
    | default default => exact .inr default
    | unnamed plain =>
      cases binds with
      | json json => simp [json] at plain
      | constant => exact .inl rfl
      | same _ other => exact absurd rfl (other "")

/-! ### Entries -/

/-- An entry that sets a property: no script, no placeholder in its key, and not left out. -/
structure Sets (e : Entity) (c : Condition) (p : Property) : Prop where
  notScript : c.predicate ≠ .script
  lacks : hasChar '?' (trim c.key) = false
  known : e.property? (trim c.key) = some p
  kept : isLeftOut e c = false

namespace Sets

variable {scope : Scope} {c : Condition}

/-- What an entry that sets a property gives. -/
theorem of_ofEntry {b : Option Fragment} (ok : ofEntry scope c = .ok b)
    (sets : Sets scope.entity c p) :
    ∃ v w, value scope.entity (trim c.key) c.operand = .ok v ∧ Binds p v w.bound ∧
      b = some [.text p.column, .text " = ", .bound w] := by
  have gives := ofEntry_eq_ok_iff.mp ok
  cases b with
  | none =>
    have leftOut := ofEntry_eq_none_iff.mp ok
    rw [sets.kept] at leftOut
    cases leftOut
  | some g =>
    cases gives with
    | script _ isScript => exact absurd isScript sets.notScript
    | placeholder _ _ holds => exact absurd holds (by simp [sets.lacks])
    | @property v w p' _ _ _ is kept known ofStored =>
      obtain rfl : p = p' := Option.some.inj (sets.known.symm.trans known)
      exact ⟨v, w, is, binds_of_stored known kept ofStored, rfl⟩

theorem named (sets : Sets e c p) : trim c.key ≠ "" := by
  intro unnamed
  have kept := sets.kept
  rw [isLeftOut, trim_eq_empty_iff.mp unnamed] at kept
  cases kept

/-! The entry with another value is left out, or it binds the value as it is. -/

theorem ofEntry_of_elided (sets : Sets scope.entity c p)
    (elided : isElided scope.entity (trim c.key) x) :
    ofEntry scope { c with operand := some (.value x) } = .ok none :=
  ofEntry_eq_ok_iff.mpr (.elided sets.named sets.notScript sets.lacks rfl elided)

theorem ofEntry_of_kept (sets : Sets scope.entity c p) (binds : Binds p v x)
    (kept : isElided scope.entity (trim c.key) x = false) :
    ofEntry scope { c with operand := some (.value x) } =
      .ok (some [.text p.column, .text " = ", .bound x]) :=
  ofEntry_eq_ok_iff.mpr
    (.property sets.named sets.notScript sets.lacks rfl kept sets.known binds.stored_eq)

end Sets

end Assignment

/-! ### Updates -/

theorem Outcome.mapM_append_cons_eq_ok {ε α β : Type} {f : α → Except ε β} {xs ys : List α} {x : α}
    {zs : List β} : (xs ++ x :: ys).mapM f = .ok zs ↔
      ∃ front b back, xs.mapM f = .ok front ∧ f x = .ok b ∧ ys.mapM f = .ok back ∧
        zs = front ++ b :: back := by
  simp only [List.mapM_append, List.mapM_cons, bind_eq_ok, pure_eq_ok]
  constructor
  · rintro ⟨front, first, _, ⟨b, middle, back, last, rfl⟩, rfl⟩
    exact ⟨front, b, back, first, middle, last, rfl⟩
  · rintro ⟨front, b, back, first, middle, last, rfl⟩
    exact ⟨front, first, _, ⟨b, middle, back, last, rfl⟩, rfl⟩

namespace UpdateStatement

variable {table : String} {front back : List Fragment} {g g' filter : Fragment}

/-- Assignments of one text can take each other's place. -/
theorem sql_congr (same : g.sql = g'.sql) :
    sql ⟨table, front ++ g :: back, filter⟩ = sql ⟨table, front ++ g' :: back, filter⟩ := by
  have texts : (front ++ g :: back).map Fragment.sql = (front ++ g' :: back).map Fragment.sql := by
    simp [same]
  rw [sql, sql, Fragment.sql_joined, Fragment.sql_joined, texts]
  rfl

theorem values_congr (same : g.values = g'.values) :
    values ⟨table, front ++ g :: back, filter⟩ = values ⟨table, front ++ g' :: back, filter⟩ := by
  simp only [values, List.flatMap_append, List.flatMap_cons, same]

end UpdateStatement

namespace Update

open Assignment

variable {u : Update} {catalog : Catalog} {d : Dialect} {s : UpdateStatement} {e : Entity}
  {c : Condition} {p : Property} {before after : List Condition}

/-- The update with other entries. -/
def setting (u : Update) (entries : List Condition) : Update :=
  { u with assignments := entries }

section

variable {v x : Value} {front back : List (Option Fragment)} {filter : Fragment}
  (found : catalog.lookup? u.entity = some e)
  (ofFilter : Filter.compile ⟨scope catalog e, d⟩ .fragment
    ((scope catalog e).pruned u.conditions) = .ok filter)
include found ofFilter

theorem outcome_setting {cs : List Condition} {results : List (Option Fragment)}
    (rendered : cs.mapM (ofEntry (scope catalog e)) = .ok results) :
    ((u.setting cs).compile catalog d).outcome =
      if results.filterMap id = [] then
        .error (.emptyUpdate (UpdateStatement.sql ⟨e.table, results.filterMap id, filter⟩))
      else .ok ⟨e.table, results.filterMap id, filter⟩ := by
  rw [outcome_compile d (u := u.setting cs) found rendered, setting, ofFilter]
  rfl

variable (sets : Sets e c p) (first : before.mapM (ofEntry (scope catalog e)) = .ok front)
  (last : after.mapM (ofEntry (scope catalog e)) = .ok back)
include sets first last

/-- The update with another value for an entry that sets a property. -/
theorem outcome_of_kept (binds : Binds p v x) (kept : isElided e (trim c.key) x = false) :
    ((u.setting (before ++ { c with operand := some (.value x) } :: after)).compile
        catalog d).outcome =
      .ok ⟨e.table,
        front.filterMap id ++ [.text p.column, .text " = ", .bound x] :: back.filterMap id,
        filter⟩ := by
  have rendered := mapM_append_cons_eq_ok.mpr
    ⟨front, _, back, first, Sets.ofEntry_of_kept sets binds kept, last, rfl⟩
  rw [outcome_setting found ofFilter rendered, List.filterMap_append, if_neg (by simp)]
  rfl

/-- Where the other value is left out, the other assignments remain. -/
theorem eq_of_outcome_of_elided (elided : isElided e (trim c.key) x) {s : UpdateStatement}
    (ok : ((u.setting (before ++ { c with operand := some (.value x) } :: after)).compile
      catalog d).outcome = .ok s) :
    s = ⟨e.table, front.filterMap id ++ back.filterMap id, filter⟩ := by
  have rendered := mapM_append_cons_eq_ok.mpr
    ⟨front, _, back, first, Sets.ofEntry_of_elided sets elided, last, rfl⟩
  rw [outcome_setting found ofFilter rendered, List.filterMap_append] at ok
  split at ok
  · cases ok
  · exact (Except.ok.inj ok).symm

end

/-- Take an update that compiles and an entry of it that sets a property. The assignment stands in
the place of the entry. What it binds is the default of the column exactly when the column takes no
null and holds no JSON, and the value is a constant without a name in a column of texts or one of
the milliseconds of the first day after the epoch, but not zero, in a column of dates. Setting again
what is bound gives the same statement with the same values, unless that is so or the value is a
constant without a name in a column that holds no JSON. -/
theorem binds_default_iff (found : catalog.lookup? u.entity = some e)
    (ok : (u.compile catalog d).outcome = .ok s) (entries : u.assignments = before ++ c :: after)
    (sets : Sets e c p) :
    ∃ v w front back, value e (trim c.key) c.operand = .ok v ∧
      s.assignments = front ++ [.text p.column, .text " = ", .bound w] :: back ∧
      front.length = (before.filter fun c => !isLeftOut e c).length ∧
      (e.isDefault (trim c.key) w.bound ↔ BindsDefault p v) ∧
      ((∃ s', ((u.setting (before ++ { c with operand := some (.value w.bound) } :: after)).compile
          catalog d).outcome = .ok s' ∧ s'.sql = s.sql ∧ s'.values = s.values) ↔ ¬ Lapses p v) := by
  obtain ⟨e', results, filter, found', gives, ofFilter, rfl⟩ := compile_eq_ok ok
  obtain rfl : e = e' := Option.some.inj (found.symm.trans found')
  have rendered := mapM_eq_ok_iff.mpr (gives.imp fun _ _ => ofEntry_eq_ok_iff.mpr)
  rw [entries, mapM_append_cons_eq_ok] at rendered
  -- the entries before and after the one in question give the same in both updates
  obtain ⟨front, b, back, first, middle, last, rfl⟩ := rendered
  obtain ⟨v, w, is, binds, rfl⟩ := Sets.of_ofEntry middle sets
  refine ⟨v, w, front.filterMap id, back.filterMap id, is, ?_, ?_, ?_, ?_⟩
  · simp
  · exact (forall₂_kept (mapM_eq_ok_iff.mp first)).length_eq.symm
  · rw [Entity.isDefault, sets.known]
    exact binds.isDefault_iff
  · rw [← Binds.isElided_iff sets.known binds, Bool.not_eq_true]
    constructor
    · rintro ⟨s', again, -, values⟩
      by_contra elided
      rw [Bool.not_eq_false] at elided
      obtain rfl := eq_of_outcome_of_elided found ofFilter sets first last elided again
      -- one value less is bound
      have fewer := congrArg List.length values
      simp [UpdateStatement.values, Piece.values] at fewer
    · intro kept
      -- a constant is bound by its name, so the pieces may differ; their text and values do not
      refine ⟨_, outcome_of_kept found ofFilter sets first last binds kept, ?_, ?_⟩
      · simp only [List.filterMap_append]
        exact UpdateStatement.sql_congr rfl
      · simp only [List.filterMap_append]
        refine UpdateStatement.values_congr ?_
        simp [Piece.values, Value.bound_bound]

end Update

namespace Roster

/-- An entity with a name and a date. -/
def user : Entity where
  name := "User"
  table := "t_user"
  properties := .ofList [("id", ⟨"id", .integer, false, false⟩),
    ("name", ⟨"name", .string, false, false⟩), ("birthday", ⟨"birthday", .date, false, false⟩)]

def catalog : Catalog := ⟨[user]⟩

/-- An update of a name and a date. -/
def moving (birthday : Value) : Update where
  entity := "User"
  assignments := [.withValue .eq "name" (.text "Bob"), .withValue .eq "birthday" birthday]
  conditions := [.withValue .eq "id" (.int 7)]

end Roster

/-- A millisecond after the epoch is kept, but binds the epoch, which is the default of its column:
set again, the epoch is left out. -/
theorem Update.binds_epoch :
    Assignment.isElided Roster.user "birthday" (.int 1) = false ∧
      Roster.user.isDefault "birthday" (.date .epoch) ∧
      (∃ s, ((Roster.moving (.int 1)).compile Roster.catalog .mysql).outcome = .ok s ∧
        s.sql = "UPDATE t_user SET name = ?, birthday = ? WHERE id = ?" ∧
        s.values = [.text "Bob", .date .epoch, .int 7]) ∧
      ∃ s, ((Roster.moving (.date .epoch)).compile Roster.catalog .mysql).outcome = .ok s ∧
        s.sql = "UPDATE t_user SET name = ? WHERE id = ?" ∧ s.values = [.text "Bob", .int 7] :=
  ⟨rfl, rfl, ⟨_, rfl, rfl, rfl⟩, _, rfl, rfl, rfl⟩

/-- A day after the epoch is stored as a date other than the epoch, and stays that date. -/
theorem Update.binds_default_iff_moving :
    ∃ (s : UpdateStatement) (w : Value),
      ((Roster.moving (.int 86400000)).compile Roster.catalog .mysql).outcome = .ok s ∧
      s.values = [.text "Bob", .date ⟨1970, 1, 2⟩, .int 7] ∧
      Roster.user.isDefault "birthday" w.bound = false ∧
      ∃ s', ((Roster.moving w.bound).compile Roster.catalog .mysql).outcome = .ok s' ∧
        s'.sql = s.sql ∧ s'.values = s.values := by
  obtain ⟨s, ok, values⟩ :
      ∃ s, ((Roster.moving (.int 86400000)).compile Roster.catalog .mysql).outcome = .ok s ∧
        s.values = [.text "Bob", .date ⟨1970, 1, 2⟩, .int 7] := ⟨_, rfl, rfl⟩
  have entries : (Roster.moving (.int 86400000)).assignments =
      [.withValue .eq "name" (.text "Bob")] ++
        .withValue .eq "birthday" (.int 86400000) :: [] := rfl
  have sets : Assignment.Sets Roster.user (.withValue .eq "birthday" (.int 86400000))
      ⟨"birthday", .date, false, false⟩ := ⟨by decide, by decide +kernel, rfl, rfl⟩
  obtain ⟨v, w, -, -, is, -, -, default, again⟩ :=
    binds_default_iff (e := Roster.user) rfl ok entries sets
  obtain rfl : .int 86400000 = v := Except.ok.inj is
  have stable : ¬ Assignment.BindsDefault ⟨"birthday", .date, false, false⟩ (.int 86400000) := by
    rintro (_ | ⟨-, -, -, -, within⟩)
    exact absurd within (by decide)
  refine ⟨s, w, ok, values, ?_, again.mpr ?_⟩
  · exact Bool.eq_false_iff.mpr (default.not.mpr stable)
  · rintro (_ | binds)
    exact stable binds

end BoundQuery
