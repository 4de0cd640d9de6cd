import BoundQuery.Document.Value
import BoundQuery.Proofs.CalendarText
import BoundQuery.Proofs.JsonText

/-!
# Values and operands read back

Documents hold values and operands without a tag, so what is written has to be taken for the same
kind again when it is read. It is: an integer that became a floating-point number is written as
one, a constant keeps only its name, a date and a moment are written in the one form of all those
that are accepted, and other JSON is written as it is.

## Main definitions

* `Document.Restores`, a value that a reader takes back from what is written of it
* `Document.Stable`, a reader all of whose values are restored

## Main results

* `Value.stable_ofDocument?` — every value that is read is restored
* `Operand.stable_read?` — so is every operand
-/

namespace BoundQuery

namespace Json

variable {j : Json} {members : List (String × Json)}

/-! ### Settled JSON -/

theorem settledItems_eq_map (items : List Json) : settledItems items = items.map settled := by
  induction items with
  | nil => rfl
  | cons j items ih => rw [settledItems, ih, List.map_cons]

theorem settledMembers_eq_map (members : List (String × Json)) :
    settledMembers members = members.map fun m => (m.1, m.2.settled) := by
  induction members with
  | nil => rfl
  | cons m members ih => rw [settledMembers, ih, List.map_cons]

theorem foldl_putMember (before : List (String × Json))
    (distinct : ((before ++ members).map Prod.fst).Nodup) :
    members.foldl (fun ms m => putMember ms m.1 m.2) before = before ++ members := by
  induction members generalizing before with
  | nil => rw [List.foldl_nil, List.append_nil]
  | cons m members ih =>
    have shifted : before ++ m :: members = before ++ [m] ++ members := by simp
    rw [List.foldl_cons, putMember_of_notMem (fresh_of_distinct distinct), shifted]
    apply ih
    rw [← shifted]
    exact distinct

/-- What can be read is settled already. -/
theorem settled_of_wellFormed (wellFormed : j.WellFormed) : j.settled = j := by
  induction wellFormed with
  | null => rfl
  | bool b => rfl
  | int inRange => rfl
  | float finite => rw [settled, if_pos finite]
  | str s => rfl
  | arr each ih =>
    rw [settled, settledItems_eq_map]
    congr 1
    exact (List.map_congr_left ih).trans (List.map_id _)
  | @obj members distinct each ih =>
    have same : settledMembers members = members := by
      rw [settledMembers_eq_map]
      refine (List.map_congr_left fun m member => ?_).trans (List.map_id members)
      rw [ih m member]
      rfl
    rw [settled, same, foldl_putMember [] distinct, List.nil_append]

theorem WellFormed.of_member? {name : String} (wellFormed : j.WellFormed) {k : Json}
    (found : j.member? name = some k) : k.WellFormed := by
  cases wellFormed with
  | obj distinct each =>
    rw [member?] at found
    obtain ⟨m, isMember, rfl⟩ := Option.map_eq_some_iff.mp found
    exact each m (List.mem_of_find?_eq_some isMember)
  | _ => cases found

end Json

namespace Document

variable {j : Json} {members : List (String × Json)}

/-! ### JSON as a document -/

theorem ofItems_eq_map (items : List Json) : ofItems items = items.map ofJson := by
  induction items with
  | nil => rfl
  | cons j items ih => rw [ofItems, ih, List.map_cons]

mutual

/-- JSON has no plain scalars, so nothing in it lacks a value. -/
theorem hasValues_ofJson : ∀ j : Json, (ofJson j).hasValues
  | .null => rfl
  | .bool _ => rfl
  | .int _ => rfl
  | .float _ => rfl
  | .str _ => rfl
  | .arr items => itemsHaveValues_ofItems items
  | .obj members => entriesHaveValues_ofMembers members

theorem itemsHaveValues_ofItems : ∀ items : List Json, itemsHaveValues (ofItems items)
  | [] => rfl
  | j :: rest => by
    rw [ofItems, itemsHaveValues, hasValues_ofJson j, itemsHaveValues_ofItems rest]
    rfl

theorem entriesHaveValues_ofMembers :
    ∀ members : List (String × Json), entriesHaveValues (ofMembers members)
  | [] => rfl
  | (n, j) :: rest => by
    rw [ofMembers, entriesHaveValues, hasValues_ofJson j, entriesHaveValues_ofMembers rest]
    rfl

end

mutual

theorem toJson?_ofJson : ∀ j : Json, (ofJson j).toJson? = some j
  | .null => rfl
  | .bool _ => rfl
  | .int _ => rfl
  | .float _ => rfl
  | .str _ => rfl
  | .arr items => by rw [ofJson, toJson?, itemsToJson?_ofItems items]; rfl
  | .obj members => by rw [ofJson, toJson?, entriesToJson?_ofMembers members]; rfl

theorem itemsToJson?_ofItems : ∀ items : List Json, itemsToJson? (ofItems items) = some items
  | [] => rfl
  | j :: rest => by
    rw [ofItems, itemsToJson?, toJson?_ofJson j, itemsToJson?_ofItems rest]
    rfl

theorem entriesToJson?_ofMembers :
    ∀ members : List (String × Json), entriesToJson? (ofMembers members) = some members
  | [] => rfl
  | (n, j) :: rest => by
    rw [ofMembers, entriesToJson?, string?, toJson?_ofJson j, entriesToJson?_ofMembers rest]
    rfl

end

/-- The members of an object as fields. -/
def fieldsOf (members : List (String × Json)) : List (String × Document) :=
  members.map fun m => (m.1, ofJson m.2)

theorem field?_fieldsOf (name : String) :
    field? name (fieldsOf members) = (Json.member? name (.obj members)).map ofJson := by
  rw [field?, fieldsOf, List.find?_map, Json.member?]
  simp [Function.comp_def]

theorem distinctNames_fieldsOf (distinct : (members.map Prod.fst).Nodup) (names : List String) :
    distinctNames names (fieldsOf members) := by
  rw [distinctNames, List.all_eq_true]
  intro name _
  have once := List.nodup_iff_count.mp distinct name
  rw [List.count, List.countP_map] at once
  rw [fieldsOf, ← List.countP_eq_length_filter, List.countP_map]
  exact decide_eq_true once

theorem namedFields?_ofMembers (names : List String) (members : List (String × Json)) :
    namedFields? names (ofMembers members) = some (fieldsOf members) := by
  induction members with
  | nil => rfl
  | cons m members ih =>
    rw [ofMembers, namedFields?, ih]
    rfl

/-- The fields of an object, each by its name. -/
theorem shape?_ofMembers (distinct : (members.map Prod.fst).Nodup) (names : List String) :
    shape? names (ofMembers members) =
      names.mapM fun n => (Json.member? n (.obj members)).map ofJson := by
  rw [shape?, namedFields?_ofMembers]
  simp only [bind, Option.bind, distinctNames_fieldsOf distinct, if_true, field?_fieldsOf]

/-! ### Readers and writers -/

section Readers

variable {α : Type}

/-- The reader takes the value back from what is written of it. -/
structure Restores (read : Document → Option α) (write : α → Json) (a : α) : Prop where
  wellFormed : (write a).WellFormed
  reads : read (ofJson (write a)) = some a

/-- The reader takes back every value that it reads. -/
def Stable (read : Document → Option α) (write : α → Json) : Prop :=
  ∀ ⦃j : Json⦄ ⦃a : α⦄, j.WellFormed → read (ofJson j) = some a → Restores read write a

variable {read : Document → Option α} {write : α → Json}

/-- Items that are restored when they are read make a list of them. -/
theorem restores_of_mapM {items : List Json} {as : List α}
    (each : ∀ j ∈ items, ∀ a, read (ofJson j) = some a → Restores read write a)
    (found : (items.map ofJson).mapM read = some as) : ∀ a ∈ as, Restores read write a := by
  induction items generalizing as with
  | nil =>
    cases found
    simp
  | cons j items ih =>
    rw [List.forall_mem_cons] at each
    rw [List.map_cons, List.mapM_cons] at found
    obtain ⟨a, first, found⟩ := Option.bind_eq_some_iff.mp found
    obtain ⟨others, behind, same⟩ := Option.bind_eq_some_iff.mp found
    cases same
    exact List.forall_mem_cons.mpr ⟨each.1 a first, ih each.2 behind⟩

theorem Stable.mapM (stable : Stable read write) {items : List Json} {as : List α}
    (each : ∀ j ∈ items, j.WellFormed) (found : (items.map ofJson).mapM read = some as) :
    ∀ a ∈ as, Restores read write a :=
  restores_of_mapM (fun j member _ => stable (each j member)) found

theorem mapM_of_restores {as : List α} (each : ∀ a ∈ as, Restores read write a) :
    ((as.map write).map ofJson).mapM read = some as := by
  induction as with
  | nil => rfl
  | cons a as ih =>
    rw [List.forall_mem_cons] at each
    rw [List.map_cons, List.map_cons, List.mapM_cons, each.1.reads, ih each.2]
    rfl

end Readers

end Document

namespace Value

open Document

variable {j : Json} {v : Value}

/-- The constant that an object names. -/
theorem constantName?_obj {members : List (String × Json)}
    (distinct : (members.map Prod.fst).Nodup) :
    constantName? (.ofJson (.obj members)) =
      (Json.member? "enum" (.obj members)).bind fun j => (Document.ofJson j).string? := by
  rw [Document.ofJson, constantName?, shape?_ofMembers distinct, List.mapM_cons, List.mapM_nil]
  cases Json.member? "enum" (.obj members) <;> rfl

/-- A document from JSON is a constant, or the value of the JSON. -/
theorem ofDocument?_ofJson (j : Json) :
    ofDocument? (.ofJson j) = match constantName? (.ofJson j) with
      | some name => some (.constant name)
      | none => some (Value.ofJson j) := by
  rw [ofDocument?, toJson?_ofJson]
  rfl

theorem exists_ofDocument? (j : Json) : ∃ v, ofDocument? (.ofJson j) = some v := by
  rw [ofDocument?_ofJson]
  split
  · exact ⟨_, rfl⟩
  · exact ⟨_, rfl⟩

/-- Only null stands for the value null. -/
theorem eq_null_of_ofDocument? (found : ofDocument? (.ofJson j) = some .null) : j = .null := by
  rw [ofDocument?_ofJson] at found
  split at found
  · cases found
  · have isNull : Value.ofJson j = .null := Option.some.inj found
    cases j with
    | null => rfl
    | int i =>
      rw [Value.ofJson, ofInt] at isNull
      split at isNull <;> cases isNull
    | str s =>
      rw [Value.ofJson, ofText] at isNull
      split at isNull
      · cases isNull
      · split at isNull <;> cases isNull
    | _ => cases isNull

theorem restores_of_ofText {s : String} (written : v.toJson = .str s) (reads : ofText s = v) :
    Restores ofDocument? toJson v := by
  refine ⟨written ▸ .str s, ?_⟩
  rw [written, ← reads]
  rfl

/-- A text stands for the same value again when it is written. -/
theorem restores_ofText (s : String) : Restores ofDocument? toJson (ofText s) := by
  rw [ofText]
  split
  · next m isMoment =>
    apply restores_of_ofText rfl
    rw [ofText, Moment.read?_text (Moment.valid_of_read? isMoment)]
  · next noMoment =>
    split
    · next d isDate =>
      have valid := Date.valid_of_read? isDate
      -- the text of a date has no time behind it, so it is not taken for a moment
      apply restores_of_ofText rfl
      simp only [ofText, Moment.read?_dateText valid, Date.read?_text valid]
    · next noDate =>
      apply restores_of_ofText rfl
      simp only [ofText, noMoment, noDate]

theorem isFinite_ofInt {i : Int} (inRange : Json.InRange i) : (Binary64.ofInt i).isFinite := by
  have size : i.natAbs.log2 < 64 := by
    by_cases zero : i.natAbs = 0
    · rw [zero]
      decide
    · apply (Nat.log2_lt zero).mpr
      have := inRange.1
      have := inRange.2
      omega
  have exponent : Binary64.exponentFor i.natAbs 1 ≤ 11 := by
    have unit : Nat.log2 1 = 0 := by decide
    simp only [Binary64.exponentFor, unit, Binary64.minExponent]
    split <;> omega
  rw [Binary64.ofInt, Binary64.ofRatio]
  split
  · rfl
  · dsimp only
    -- rounding up to the next power of two adds one to the exponent
    split <;> dsimp only
    · rw [if_neg (by rw [Binary64.maxExponent]; omega)]
      rfl
    · rw [if_neg (by rw [Binary64.maxExponent]; omega)]
      rfl

/-- An integer keeps its value, or is a floating-point number from then on. -/
theorem restores_ofInt {i : Int} (inRange : Json.InRange i) :
    Restores ofDocument? toJson (ofInt i) := by
  rw [ofInt]
  split
  · next small =>
    have back : (Int64.ofInt i).toInt = i := Int64.toInt_ofInt_of_le small.1 small.2
    refine ⟨?_, ?_⟩
    · rw [toJson, back]
      exact .int inRange
    · rw [toJson, back, ofDocument?_ofJson]
      simp [Document.ofJson, constantName?, Value.ofJson, ofInt, small]
  · exact ⟨.float (isFinite_ofInt inRange), rfl⟩

/-- Every value that is read is restored. -/
theorem stable_ofDocument? : Stable ofDocument? toJson := by
  intro j v wellFormed found
  cases isConstant : constantName? (.ofJson j) with
  | some name =>
    rw [ofDocument?_ofJson, isConstant] at found
    cases found
    refine ⟨.obj (by simp) (by simp [Json.WellFormed.str]), ?_⟩
    rw [ofDocument?_ofJson, toJson, constantName?_obj (by simp)]
    rfl
  | none =>
    have value : v = Value.ofJson j := by
      rw [ofDocument?_ofJson, isConstant] at found
      exact (Option.some.inj found).symm
    -- lists and objects are settled, so what is written is what was read
    have settled := Json.settled_of_wellFormed wellFormed
    cases wellFormed with
    | null => exact value ▸ ⟨.null, rfl⟩
    | bool b => exact value ▸ ⟨.bool b, rfl⟩
    | int inRange => exact value ▸ restores_ofInt inRange
    | float finite => exact value ▸ ⟨.float finite, rfl⟩
    | str s => exact value ▸ restores_ofText s
    | arr each =>
      obtain rfl := value.trans (congrArg Value.json settled)
      exact ⟨.arr each, found⟩
    | obj distinct each =>
      obtain rfl := value.trans (congrArg Value.json settled)
      exact ⟨.obj distinct each, found⟩

end Value

namespace Operand

open Document

variable {j : Json} {o : Operand} {v : Value}

theorem read?_ofJson (j : Json) : read? (.ofJson j) = ofDocument? (.ofJson j) := by
  rw [read?, if_pos (hasValues_ofJson j)]

/-- An object is a range when it has both ends. -/
theorem range?_ofMembers {members : List (String × Json)}
    (distinct : (members.map Prod.fst).Nodup) :
    range? (ofMembers members) =
      (Json.member? "min" (.obj members)).bind fun min =>
        (Json.member? "max" (.obj members)).bind fun max =>
          (Value.ofDocument? (.ofJson min)).bind fun low =>
            (Value.ofDocument? (.ofJson max)).bind fun high => some (.range low high) := by
  rw [range?, shape?_ofMembers distinct]
  simp only [List.mapM_cons, List.mapM_nil]
  cases Json.member? "min" (.obj members) with
  | none => rfl
  | some min =>
    cases Json.member? "max" (.obj members) <;> rfl

theorem range?_eq_none_iff {members : List (String × Json)}
    (distinct : (members.map Prod.fst).Nodup) :
    range? (ofMembers members) = none ↔
      Json.member? "min" (.obj members) = none ∨ Json.member? "max" (.obj members) = none := by
  rw [range?_ofMembers distinct]
  cases Json.member? "min" (.obj members) with
  | none => simp
  | some min =>
    cases Json.member? "max" (.obj members) with
    | none => simp
    | some max =>
      obtain ⟨low, isLow⟩ := Value.exists_ofDocument? min
      obtain ⟨high, isHigh⟩ := Value.exists_ofDocument? max
      simp [isLow, isHigh]

/-- An operand that is neither a list nor a range is the value that is written. -/
theorem restores_value (restored : Restores Value.ofDocument? Value.toJson v)
    (single : ofDocument? (.ofJson v.toJson) =
      (Value.ofDocument? (.ofJson v.toJson)).map .value) :
    Restores read? toJson (.value v) := by
  refine ⟨restored.wellFormed, ?_⟩
  rw [toJson, read?_ofJson, single, restored.reads]
  rfl

theorem restores_list {vs : List Value}
    (each : ∀ v ∈ vs, Restores Value.ofDocument? Value.toJson v) :
    Restores read? toJson (.list vs) := by
  refine ⟨.arr ?_, ?_⟩
  · intro j member
    obtain ⟨v, given, rfl⟩ := List.mem_map.mp member
    exact (each v given).wellFormed
  · rw [toJson, read?_ofJson, Document.ofJson, ofDocument?, ofItems_eq_map,
      mapM_of_restores each]
    rfl

theorem restores_range {min max : Value} (low : Restores Value.ofDocument? Value.toJson min)
    (high : Restores Value.ofDocument? Value.toJson max) :
    Restores read? toJson (.range min max) := by
  refine ⟨.obj (by simp) ?_, ?_⟩
  · simp [low.wellFormed, high.wellFormed]
  · rw [toJson, read?_ofJson, Document.ofJson, ofDocument?, range?_ofMembers (by simp)]
    simp [Json.member?, low.reads, high.reads]

/-- An object that is no range is a single value. -/
theorem ofDocument?_obj {members : List (String × Json)}
    (noRange : range? (ofMembers members) = none) :
    ofDocument? (.ofJson (.obj members)) =
      (Value.ofDocument? (.ofJson (.obj members))).map .value := by
  rw [Document.ofJson, ofDocument?, noRange]

theorem restores_of_range? {members : List (String × Json)}
    (wellFormed : Json.WellFormed (.obj members)) (found : range? (ofMembers members) = some o) :
    Restores read? toJson o := by
  cases wellFormed with
  | obj distinct each =>
    rw [range?_ofMembers distinct] at found
    simp only [Option.bind_eq_some_iff] at found
    obtain ⟨min, hasMin, max, hasMax, low, isLow, high, isHigh, same⟩ := found
    cases same
    exact restores_range
      (Value.stable_ofDocument? (Json.WellFormed.of_member? (.obj distinct each) hasMin) isLow)
      (Value.stable_ofDocument? (Json.WellFormed.of_member? (.obj distinct each) hasMax) isHigh)

/-- An object that is no range is written as an object that is none. -/
theorem restores_of_noRange {members : List (String × Json)}
    (wellFormed : Json.WellFormed (.obj members)) (noRange : range? (ofMembers members) = none)
    (found : Value.ofDocument? (.ofJson (.obj members)) = some v) :
    Restores read? toJson (.value v) := by
  have restored := Value.stable_ofDocument? wellFormed found
  apply restores_value restored
  -- it is left to see that what is written is no range either
  rw [Value.ofDocument?_ofJson] at found
  split at found
  · cases found
    apply ofDocument?_obj
    rw [range?_eq_none_iff (by simp)]
    exact .inl rfl
  · cases found
    have written : Value.toJson (Value.ofJson (.obj members)) = .obj members :=
      Json.settled_of_wellFormed wellFormed
    rw [written]
    exact ofDocument?_obj noRange

/-- Every operand that is read is restored. -/
theorem stable_read? : Stable read? toJson := by
  intro j o wellFormed found
  rw [read?_ofJson] at found
  cases wellFormed with
  | arr each =>
    rw [Document.ofJson, ofDocument?, ofItems_eq_map] at found
    obtain ⟨vs, values, rfl⟩ := Option.map_eq_some_iff.mp found
    exact restores_list (Value.stable_ofDocument?.mapM each values)
  | @obj members distinct each =>
    cases isRange : range? (ofMembers members) with
    | some r =>
      rw [Document.ofJson, ofDocument?, isRange] at found
      cases found
      exact restores_of_range? (.obj distinct each) isRange
    | none =>
      rw [ofDocument?_obj isRange] at found
      obtain ⟨v, value, rfl⟩ := Option.map_eq_some_iff.mp found
      exact restores_of_noRange (.obj distinct each) isRange value
  | int inRange =>
    cases found
    refine restores_value (Value.restores_ofInt inRange) ?_
    rw [Value.ofJson, Value.ofInt]
    split <;> rfl
  | str s =>
    cases found
    refine restores_value (Value.restores_ofText s) ?_
    rw [Value.ofJson, Value.ofText]
    split
    · rfl
    · split <;> rfl
  | null =>
    cases found
    exact restores_value ⟨.null, rfl⟩ rfl
  | bool b =>
    cases found
    exact restores_value ⟨.bool b, rfl⟩ rfl
  | float finite =>
    cases found
    exact restores_value ⟨.float finite, rfl⟩ rfl

/-- A single value is read as the value it is. -/
theorem ofDocument?_of_read? (wellFormed : j.WellFormed)
    (found : read? (.ofJson j) = some (.value v)) : Value.ofDocument? (.ofJson j) = some v := by
  rw [read?_ofJson] at found
  cases wellFormed with
  | arr each =>
    obtain ⟨vs, -, other⟩ := Option.map_eq_some_iff.mp found
    cases other
  | @obj members distinct each =>
    cases isRange : range? (ofMembers members) with
    | some r =>
      rw [Document.ofJson, ofDocument?, isRange] at found
      cases found
      rw [range?_ofMembers distinct] at isRange
      simp [Option.bind_eq_some_iff] at isRange
    | none =>
      rw [ofDocument?_obj isRange] at found
      obtain ⟨_, value, same⟩ := Option.map_eq_some_iff.mp found
      cases same
      exact value
  | _ =>
    cases found
    rfl

/-- Only null is read as an operand that is written as null. -/
theorem eq_null_of_toJson (wellFormed : j.WellFormed) (found : read? (.ofJson j) = some o)
    (null : o.toJson = .null) : j = .null := by
  -- null reads as the value null, so that is what was read
  have back := (stable_read? wellFormed found).reads
  rw [null] at back
  cases back
  exact Value.eq_null_of_ofDocument? (ofDocument?_of_read? wellFormed found)

end Operand

end BoundQuery
