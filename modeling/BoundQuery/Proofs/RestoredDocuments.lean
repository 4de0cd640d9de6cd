import BoundQuery.Document.Criteria
import BoundQuery.Proofs.UntaggedValues
import Mathlib.Data.List.Basic

/-!
# Conditions, criteria and updates read back

A record is read from the map of its fields or from the list of them, with fields that may be left
out; it is written as the map of all its fields. Everything in a record but the operands of its
conditions is restored whatever it is, and the operands are because they were read.

## Main definitions

* `Document.inText?`, what a JSON text holds for a reader

## Main results

* `Condition.stable_read?`, `Criteria.stable_read?`, `Update.stable_read?` — what is read is
  restored
* `Document.reread_compact` — and so it is from the text that is written of it
-/

namespace BoundQuery

namespace Document

section Readers

variable {α : Type} {read : Document → Option α} {write : α → Json} {a : α} {name : String}
  {members : List (String × Json)} {fields : List (String × Document)}

/-! ### Parts of records -/

theorem isNull_ofJson {j : Json} : (ofJson j).isNull ↔ j = .null := by
  cases j <;> simp [ofJson, isNull]

theorem restores_text (s : String) : Restores text? .str s :=
  ⟨.str s, rfl⟩

theorem restores_flag (b : Bool) : Restores flag? .bool b :=
  ⟨.bool b, rfl⟩

/-- A name out of an enumeration. -/
theorem restores_name {ofName? : String → Option α} {nameOf : α → String}
    (back : ofName? (nameOf a) = some a) :
    Restores (fun d => d.name?.bind ofName?) (fun a => .str (nameOf a)) a :=
  ⟨.str _, back⟩

/-- What may be missing, as JSON. -/
def orNull (write : α → Json) (a : Option α) : Json :=
  (a.map write).getD .null

theorem restores_none : Restores (optional read) (orNull write) none :=
  ⟨.null, rfl⟩

theorem Restores.present (restored : Restores read write a) (proper : write a ≠ .null) :
    Restores (optional read) (orNull write) (some a) := by
  refine ⟨restored.wellFormed, ?_⟩
  have given : ¬ (ofJson (write a)).isNull := isNull_ofJson.not.mpr proper
  change optional read (ofJson (write a)) = _
  rw [optional, if_neg given, restored.reads]
  rfl

theorem restores_optional (restored : ∀ a, Restores read write a) (proper : ∀ a, write a ≠ .null)
    (o : Option α) : Restores (optional read) (orNull write) o := by
  cases o with
  | none => exact restores_none
  | some a => exact (restored a).present (proper a)

theorem restores_listOf {as : List α} (each : ∀ a ∈ as, Restores read write a) :
    Restores (listOf read) (fun as => .arr (as.map write)) as := by
  refine ⟨.arr ?_, ?_⟩
  · intro j member
    obtain ⟨a, given, rfl⟩ := List.mem_map.mp member
    exact (each a given).wellFormed
  · rw [ofJson, listOf, items?, Option.bind_some, ofItems_eq_map]
    exact mapM_of_restores each

theorem Stable.optional (stable : Stable read write)
    (proper : ∀ j a, j.WellFormed → read (ofJson j) = some a → write a = .null → j = .null) :
    Stable (optional read) (orNull write) := by
  intro j o wellFormed found
  rw [Document.optional] at found
  split at found
  · cases found
    exact restores_none
  · next present =>
    obtain ⟨a, reads, rfl⟩ := Option.map_eq_some_iff.mp found
    refine (stable wellFormed reads).present fun null => present ?_
    exact isNull_ofJson.mpr (proper j a wellFormed reads null)

theorem Stable.listOf (stable : Stable read write) :
    Stable (listOf read) (fun as => .arr (as.map write)) := by
  intro j as wellFormed found
  cases wellFormed with
  | arr each =>
    rw [ofJson, Document.listOf, items?, Option.bind_some, ofItems_eq_map] at found
    exact restores_listOf (stable.mapM each found)
  | _ => cases found

/-! ### Records -/

/-- The fields hold well-formed JSON. -/
def FromJson (fields : List (String × Document)) : Prop :=
  ∀ f ∈ fields, ∃ j : Json, j.WellFormed ∧ f.2 = ofJson j

theorem fromJson_fieldsOf (each : ∀ m ∈ members, m.2.WellFormed) : FromJson (fieldsOf members) := by
  intro f member
  obtain ⟨m, given, rfl⟩ := List.mem_map.mp member
  exact ⟨m.2, each m given, rfl⟩

theorem fromJson_zip (names : List String) {items : List Json} (each : ∀ j ∈ items, j.WellFormed) :
    FromJson (names.zip (items.map ofJson)) := by
  intro f member
  obtain ⟨j, given, same⟩ := List.mem_map.mp (List.of_mem_zip member).2
  exact ⟨j, each j given, same.symm⟩

theorem entries?_obj (members : List (String × Json)) :
    entries? (ofJson (.obj members)) = some (fieldsOf members) := by
  rw [ofJson, entries?]
  induction members with
  | nil => rfl
  | cons m members ih =>
    rw [ofMembers, List.mapM_cons, ih]
    rfl

/-- The fields of an object are its members. -/
theorem fields?_obj (distinct : (members.map Prod.fst).Nodup) (names : List String) :
    fields? names (ofJson (.obj members)) = some (fieldsOf members) := by
  have entries := entries?_obj members
  rw [ofJson] at entries ⊢
  rw [fields?, entries, Option.bind_some, if_pos (distinctNames_fieldsOf distinct names)]
  simp

theorem fromJson_of_fields? {j : Json} {names : List String} (wellFormed : j.WellFormed)
    (found : fields? names (ofJson j) = some fields) : FromJson fields := by
  cases wellFormed with
  | arr each =>
    rw [ofJson, fields?, ofItems_eq_map] at found
    split at found
    · cases found
      exact fromJson_zip names each
    · cases found
  | obj distinct each =>
    rw [fields?_obj distinct] at found
    cases found
    exact fromJson_fieldsOf each
  | _ => cases found

theorem FromJson.field? {d : Document} (fromJson : FromJson fields)
    (found : field? name fields = some d) : ∃ j : Json, j.WellFormed ∧ d = ofJson j := by
  obtain ⟨f, isField, rfl⟩ := Option.map_eq_some_iff.mp found
  exact fromJson f (List.mem_of_find?_eq_some isField)

/-- A field that is read is restored, and so is one that is left out if its default is. -/
theorem Stable.defaulted {default : α} (stable : Stable read write) (fromJson : FromJson fields)
    (restored : Restores read write default)
    (found : defaulted fields name read default = some a) : Restores read write a := by
  rw [Document.defaulted] at found
  split at found
  · next d isField =>
    obtain ⟨j, wellFormed, rfl⟩ := fromJson.field? isField
    exact stable wellFormed found
  · cases found
    exact restored

/-- A field that is written is read. -/
theorem Restores.required (restored : Restores read write a)
    (given : Json.member? name (.obj members) = some (write a)) :
    required (fieldsOf members) name read = some a := by
  rw [Document.required, field?_fieldsOf, given]
  exact restored.reads

theorem Restores.defaulted {default : α} (restored : Restores read write a)
    (given : Json.member? name (.obj members) = some (write a)) :
    defaulted (fieldsOf members) name read default = some a := by
  rw [Document.defaulted, field?_fieldsOf, given]
  exact restored.reads

end Readers

end Document

namespace Condition

open Document

variable {j : Json} {c : Condition} {cs : List Condition}

/-! ### Conditions -/

theorem restores_predicate (p : Predicate) :
    Restores Predicate.read? (fun p => .str p.name) p :=
  restores_name (by cases p <;> decide)

theorem restores_conjunction (c : Option Conjunction) :
    Restores (optional Conjunction.read?) (orNull fun c => .str c.name) c :=
  restores_optional (fun c => restores_name (by cases c <;> decide)) (fun _ => Json.noConfusion) c

theorem stable_operand : Stable (optional Operand.read?) (orNull Operand.toJson) :=
  Operand.stable_read?.optional fun _ _ => Operand.eq_null_of_toJson

theorem allToJson_eq_map (cs : List Condition) : allToJson cs = cs.map toJson := by
  induction cs with
  | nil => rfl
  | cons c cs ih => rw [allToJson, ih, List.map_cons]

theorem readAll?_eq_mapM (ds : List Document) : readAll? ds = ds.mapM read? := by
  induction ds with
  | nil => rfl
  | cons d ds ih => rw [readAll?, List.mapM_cons, ih]

theorem restores_children (each : ∀ c ∈ cs, Restores read? toJson c) :
    Restores readChildren? (fun cs => .arr (allToJson cs)) cs := by
  have list := restores_listOf each
  simp only [← allToJson_eq_map] at list
  refine ⟨list.wellFormed, ?_⟩
  rw [Document.ofJson, readChildren?, readAll?_eq_mapM, allToJson_eq_map, ofItems_eq_map]
  exact mapM_of_restores each

/-- The children of an object are those of its member. -/
theorem readFieldOf?_ofMembers (members : List (String × Json)) :
    readFieldOf? (ofMembers members) =
      match Json.member? "sub" (.obj members) with
      | some j => readChildren? (.ofJson j)
      | none => some [] := by
  induction members with
  | nil => rfl
  | cons m members ih =>
    obtain ⟨name, j⟩ := m
    rw [ofMembers, readFieldOf?]
    by_cases isSub : name = "sub"
    · simp [text?, isSub, Json.member?]
    · rw [ih]
      simp [text?, isSub, Json.member?]

/-- The members of a node. -/
def members (c : Condition) : List (String × Json) :=
  [("key", .str c.key), ("value", orNull Operand.toJson c.operand),
    ("predicate", .str c.predicate.name), ("conjunction", orNull (.str ·.name) c.conjunction)] ++
  if c.children.isEmpty then [] else [("sub", .arr (allToJson c.children))]

theorem toJson_eq (c : Condition) : c.toJson = .obj c.members := by
  obtain ⟨key, operand, predicate, conjunction, children⟩ := c
  have text : Json.ofText? (conjunction.map Conjunction.name) =
      orNull (.str ·.name) conjunction := by
    cases conjunction <;> rfl
  cases children with
  | nil =>
    rw [toJson, text]
    rfl
  | cons c cs =>
    rw [toJson, text]
    rfl

theorem distinct_members (c : Condition) : (c.members.map Prod.fst).Nodup := by
  rw [members]
  split <;> simp

/-- No children are written as no member, which reads as no children. -/
theorem readFieldOf?_members (children : ∀ d ∈ c.children, Restores read? toJson d) :
    readFieldOf? (ofMembers c.members) = some c.children := by
  rw [readFieldOf?_ofMembers]
  by_cases isLeaf : c.children = []
  · simp [members, isLeaf, Json.member?]
  · have sub : Json.member? "sub" (.obj c.members) = some (.arr (allToJson c.children)) := by
      simp [members, isLeaf, Json.member?]
    rw [sub]
    exact (restores_children children).reads

/-- A node is restored when its operand and its children are. -/
theorem restores_node
    (operand : Restores (optional Operand.read?) (orNull Operand.toJson) c.operand)
    (children : ∀ d ∈ c.children, Restores read? toJson d) : Restores read? toJson c := by
  have predicate := restores_predicate c.predicate
  have conjunction := restores_conjunction c.conjunction
  constructor
  · rw [toJson_eq]
    refine .obj (distinct_members c) ?_
    have sub := (restores_children children).wellFormed
    rw [members]
    split <;>
      simp [operand.wellFormed, predicate.wellFormed, conjunction.wellFormed, Json.WellFormed.str,
        sub]
  · rw [toJson_eq]
    have fields := fields?_obj (distinct_members c) fieldNames
    rw [Document.ofJson] at fields ⊢
    rw [read?, fields, readFieldOf?_members children]
    simp only [bind, Option.bind, ofFields?]
    rw [(restores_text c.key).defaulted (by simp [members, Json.member?]),
      operand.defaulted (by simp [members, Json.member?]),
      predicate.required (by simp [members, Json.member?]),
      conjunction.defaulted (by simp [members, Json.member?])]
    cases c
    rfl

/-- The operand is the one field that has to come from JSON; all others are restored as they are. -/
theorem operand_of_ofFields? {fields : List (String × Document)} (fromJson : FromJson fields)
    (found : ofFields? fields cs = some c) :
    Restores (optional Operand.read?) (orNull Operand.toJson) c.operand ∧ c.children = cs := by
  simp only [ofFields?, bind, Option.bind_eq_some_iff] at found
  obtain ⟨key, -, operand, isOperand, predicate, -, conjunction, -, same⟩ := found
  cases same
  exact ⟨stable_operand.defaulted fromJson restores_none isOperand, rfl⟩

/-- A node that is the list of its fields. -/
theorem restores_of_list {items : List Json} (each : ∀ k ∈ items, k.WellFormed)
    (inner : ∀ k ∈ items, ∀ cs, readChildren? (.ofJson k) = some cs →
      ∀ c ∈ cs, Restores read? toJson c)
    (found : read? (.ofJson (.arr items)) = some c) : Restores read? toJson c := by
  have ofItem : ∀ d ∈ ofItems items, ∃ k ∈ items, d = .ofJson k := by
    intro d member
    rw [ofItems_eq_map] at member
    obtain ⟨k, given, same⟩ := List.mem_map.mp member
    exact ⟨k, given, same.symm⟩
  have isList : Document.ofJson (.arr items) = .list true (ofItems items) := by rw [Document.ofJson]
  rw [read?.eq_def] at found
  -- only a list of all five fields has children; a shorter one leaves them out
  split at found
  · next key value predicate conjunction children same =>
    rw [isList] at same
    injection same with _ same
    rw [same] at ofItem
    obtain ⟨cs, isChildren, found⟩ := Option.bind_eq_some_iff.mp found
    have fromJson : FromJson (fieldNames.zip [key, value, predicate, conjunction]) := by
      intro f member
      have inItems : f.2 ∈ [key, value, predicate, conjunction] ++ [children] :=
        List.mem_append_left _ (List.of_mem_zip member).2
      obtain ⟨k, given, isItem⟩ := ofItem f.2 inItems
      exact ⟨k, each k given, isItem⟩
    obtain ⟨operand, rfl⟩ := operand_of_ofFields? fromJson found
    obtain ⟨k, given, rfl⟩ := ofItem children (by simp)
    exact restores_node operand (inner k given _ isChildren)
  · next same =>
    rw [isList] at same
    cases same
  · obtain ⟨fields, isFields, found⟩ := Option.bind_eq_some_iff.mp found
    obtain ⟨operand, leaf⟩ := operand_of_ofFields? (fromJson_of_fields? (.arr each) isFields) found
    exact restores_node operand (by simp [leaf])

/-- A node that is the map of its fields. -/
theorem restores_of_map {members : List (String × Json)}
    (wellFormed : Json.WellFormed (.obj members))
    (inner : ∀ m ∈ members, ∀ cs, readChildren? (.ofJson m.2) = some cs →
      ∀ c ∈ cs, Restores read? toJson c)
    (found : read? (.ofJson (.obj members)) = some c) : Restores read? toJson c := by
  have isMap : Document.ofJson (.obj members) = .map (ofMembers members) := by rw [Document.ofJson]
  rw [isMap, read?, ← isMap] at found
  obtain ⟨fields, isFields, found⟩ := Option.bind_eq_some_iff.mp found
  obtain ⟨cs, isChildren, found⟩ := Option.bind_eq_some_iff.mp found
  obtain ⟨operand, rfl⟩ := operand_of_ofFields? (fromJson_of_fields? wellFormed isFields) found
  apply restores_node operand
  rw [readFieldOf?_ofMembers] at isChildren
  split at isChildren
  · next j isMember =>
    obtain ⟨m, isEntry, rfl⟩ := Option.map_eq_some_iff.mp isMember
    exact inner m (List.mem_of_find?_eq_some isEntry) _ isChildren
  · rw [← Option.some.inj isChildren]
    simp

/-- Every node that is read is restored, and so is every list of nodes. -/
theorem restores_of_read (wellFormed : j.WellFormed) :
    (∀ c, read? (.ofJson j) = some c → Restores read? toJson c) ∧
    ∀ cs, readChildren? (.ofJson j) = some cs → ∀ c ∈ cs, Restores read? toJson c := by
  -- nodes lie two levels below a node, so both readers take part in the induction
  induction wellFormed with
  | @arr items each ih =>
    refine ⟨fun c => restores_of_list each fun k given => (ih k given).2, fun cs found => ?_⟩
    rw [Document.ofJson, readChildren?, readAll?_eq_mapM, ofItems_eq_map] at found
    exact restores_of_mapM (fun k given => (ih k given).1) found
  | @obj members distinct each ih =>
    refine ⟨fun c => restores_of_map (.obj distinct each) fun m given => (ih m given).2,
      fun cs found => ?_⟩
    cases found
  | _ => constructor <;> intro _ found <;> cases found

theorem stable_read? : Stable read? toJson :=
  fun _ c wellFormed => (restores_of_read wellFormed).1 c

theorem stable_readChildren? : Stable readChildren? (fun cs => .arr (allToJson cs)) :=
  fun _ cs wellFormed found => restores_children ((restores_of_read wellFormed).2 cs found)

theorem toJson_ne_null (c : Condition) : c.toJson ≠ .null := by
  rw [toJson_eq]
  exact Json.noConfusion

end Condition

open Document

/-! ### Criteria and updates -/

/-- A text or null, as it is written. -/
theorem Document.restores_textOrNull (o : Option String) :
    Restores (optional text?) Json.ofText? o := by
  have same : Json.ofText? = orNull .str := by
    funext o
    cases o <;> rfl
  rw [same]
  exact restores_optional restores_text (fun _ => Json.noConfusion) o

theorem SortKey.restores (s : SortKey) : Restores read? toJson s := by
  have direction : Restores (optional Direction.read?) (orNull fun d => .str d.name) s.direction :=
    restores_optional (fun d => restores_name (by cases d <;> decide)) (fun _ => Json.noConfusion) _
  have written : Json.ofText? (s.direction.map Direction.name) =
      orNull (.str ·.name) s.direction := by
    cases s.direction <;> rfl
  constructor
  · exact .obj (by simp) (List.forall_iff_forall_mem.mp
      ⟨.str s.key, written ▸ direction.wellFormed⟩)
  · rw [toJson, read?, fields?_obj (by simp)]
    simp only [bind, Option.bind]
    rw [(restores_text s.key).required (by simp [Json.member?]),
      direction.defaulted (by simp [Json.member?, written])]
    rfl

theorem Reduce.restores {r : Reduce}
    (having : Restores (optional Condition.read?) (orNull Condition.toJson) r.having) :
    Restores read? toJson r := by
  have aggregate : Restores Aggregate.read? (fun a => .str a.name) r.aggregate :=
    restores_name (by cases r.aggregate <;> decide)
  constructor
  · exact .obj (by simp) (List.forall_iff_forall_mem.mp
      ⟨.str _, .str _, having.wellFormed⟩)
  · rw [toJson, read?, fields?_obj (by simp)]
    simp only [bind, Option.bind]
    rw [(restores_text r.property).required (by simp [Json.member?]),
      aggregate.required (by simp [Json.member?]),
      having.defaulted (by simp [Json.member?, orNull])]
    rfl

theorem Reduce.stable_read? : Stable read? toJson := by
  intro j r wellFormed found
  rw [read?] at found
  simp only [bind, Option.bind_eq_some_iff] at found
  obtain ⟨fields, isFields, property, -, aggregate, -, having, isHaving, same⟩ := found
  cases same
  have stable := Condition.stable_read?.optional fun _ c _ _ null =>
    absurd null c.toJson_ne_null
  exact restores (stable.defaulted (fromJson_of_fields? wellFormed isFields) restores_none isHaving)

theorem Projected.restores {p : Projected}
    (reduces : Restores (listOf Reduce.read?) (fun rs => .arr (rs.map Reduce.toJson)) p.reduces) :
    Restores read? toJson p := by
  have resultKeys := restores_listOf fun s (_ : s ∈ p.resultKeys) => restores_text s
  have distinct := restores_listOf fun s (_ : s ∈ p.distinct) => restores_text s
  constructor
  · exact .obj (by simp) (List.forall_iff_forall_mem.mp
      ⟨resultKeys.wellFormed, distinct.wellFormed, reduces.wellFormed⟩)
  · rw [toJson, read?, fields?_obj (by simp)]
    simp only [bind, Option.bind]
    rw [resultKeys.defaulted (by simp [Json.member?]), distinct.defaulted (by simp [Json.member?]),
      reduces.defaulted (by simp [Json.member?])]
    rfl

theorem Projected.stable_read? : Stable read? toJson := by
  intro j p wellFormed found
  rw [read?] at found
  simp only [bind, Option.bind_eq_some_iff] at found
  obtain ⟨fields, isFields, resultKeys, -, distinct, -, reduces, isReduces, same⟩ := found
  cases same
  exact restores (Reduce.stable_read?.listOf.defaulted (fromJson_of_fields? wellFormed isFields)
    (restores_listOf (by simp)) isReduces)

theorem Criteria.restores {c : Criteria}
    (conditions : Restores Condition.readChildren? (fun cs => .arr (Condition.allToJson cs))
      c.conditions)
    (projected : Restores (optional Projected.read?) (orNull Projected.toJson) c.projected) :
    Restores read? toJson c := by
  have sorts := restores_listOf fun s (_ : s ∈ c.sorts) => s.restores
  constructor
  · exact .obj (by simp) (List.forall_iff_forall_mem.mp
      ⟨.str c.entity, (restores_textOrNull c.source).wellFormed, conditions.wellFormed,
      sorts.wellFormed, (restores_textOrNull c.groupBy).wellFormed,
      (restores_textOrNull c.forceIndex).wellFormed, .bool c.ignoresTotal, .bool c.fixedSort,
      projected.wellFormed⟩)
  · rw [toJson, read?, fields?_obj (by simp)]
    simp only [bind, Option.bind]
    rw [(restores_text c.entity).required (by simp [Json.member?]),
      (restores_textOrNull c.source).defaulted (by simp [Json.member?]),
      conditions.defaulted (by simp [Json.member?]),
      sorts.defaulted (by simp [Json.member?]),
      (restores_textOrNull c.groupBy).defaulted (by simp [Json.member?]),
      (restores_textOrNull c.forceIndex).defaulted (by simp [Json.member?]),
      (restores_flag c.ignoresTotal).defaulted (by simp [Json.member?]),
      (restores_flag c.fixedSort).defaulted (by simp [Json.member?]),
      projected.defaulted (by simp [Json.member?, orNull])]
    rfl

/-- Criteria that are read are restored. -/
theorem Criteria.stable_read? : Stable read? toJson := by
  intro j c wellFormed found
  rw [read?] at found
  simp only [bind, Option.bind_eq_some_iff] at found
  obtain ⟨fields, isFields, entity, -, source, -, conditions, isConditions, sorts, -, groupBy, -,
    forceIndex, -, ignoresTotal, -, fixedSort, -, projected, isProjected, same⟩ := found
  cases same
  have fromJson := fromJson_of_fields? wellFormed isFields
  have optionally := Projected.stable_read?.optional fun _ _ _ _ null => Json.noConfusion null
  exact restores
    (Condition.stable_readChildren?.defaulted fromJson (Condition.restores_children (by simp))
      isConditions)
    (optionally.defaulted fromJson restores_none isProjected)

theorem Update.restores {u : Update}
    (assignments : Restores Condition.readChildren? (fun cs => .arr (Condition.allToJson cs))
      u.assignments)
    (conditions : Restores Condition.readChildren? (fun cs => .arr (Condition.allToJson cs))
      u.conditions) : Restores read? toJson u := by
  constructor
  · exact .obj (by simp) (List.forall_iff_forall_mem.mp
      ⟨.str u.entity, assignments.wellFormed, conditions.wellFormed⟩)
  · rw [toJson, read?, fields?_obj (by simp)]
    simp only [bind, Option.bind]
    rw [(restores_text u.entity).required (by simp [Json.member?]),
      assignments.defaulted (by simp [Json.member?]),
      conditions.defaulted (by simp [Json.member?])]
    rfl

/-- An update that is read is restored. -/
theorem Update.stable_read? : Stable read? toJson := by
  intro j u wellFormed found
  rw [read?] at found
  simp only [bind, Option.bind_eq_some_iff] at found
  obtain ⟨fields, isFields, entity, -, assignments, isAssignments, conditions, isConditions,
    same⟩ := found
  cases same
  have fromJson := fromJson_of_fields? wellFormed isFields
  have empty := @Condition.restores_children [] (by simp)
  exact restores (Condition.stable_readChildren?.defaulted fromJson empty isAssignments)
    (Condition.stable_readChildren?.defaulted fromJson empty isConditions)

/-! ### Texts -/

namespace Document

/-- What a JSON text holds, for a reader of documents. -/
def inText? {α : Type} (read : Document → Option α) (s : String) : Option α :=
  (Json.parse? s).bind fun j => read (ofJson j)

theorem Stable.inText? {α : Type} {read : Document → Option α} {write : α → Json}
    (stable : Stable read write) {s : String} {a : α} (found : inText? read s = some a)
    (back : (write a).FloatsReadBack) :
    inText? read (write a).compact = some a := by
  -- the tree is well-formed because it was read, and so is the tree that is written
  obtain ⟨j, parsed, reads⟩ := Option.bind_eq_some_iff.mp found
  have restored := stable (Json.wellFormed_of_parse? parsed) reads
  rw [Document.inText?, Json.parse?_compact restored.wellFormed back]
  exact restored.reads

/-- Criteria, updates and conditions that a text holds are what the text written of them holds, as
long as the floating-point numbers in it read back from their own texts. -/
theorem reread_compact :
    (∀ s c, inText? Criteria.read? s = some c → c.toJson.FloatsReadBack →
      inText? Criteria.read? c.toJson.compact = some c) ∧
    (∀ s u, inText? Update.read? s = some u → u.toJson.FloatsReadBack →
      inText? Update.read? u.toJson.compact = some u) ∧
    (∀ s c, inText? Condition.read? s = some c → c.toJson.FloatsReadBack →
      inText? Condition.read? c.toJson.compact = some c) :=
  ⟨fun _ _ => Criteria.stable_read?.inText?, fun _ _ => Update.stable_read?.inText?,
    fun _ _ => Condition.stable_read?.inText?⟩

end Document

namespace Shop

/-- A node as the list of its fields: a range from a year before our era to an integer of more than
63 bits, joined by nothing, without children. -/
def eraText : String :=
  "[\"at\",\x7b\"min\":\"-0044-03-15\",\"max\":9223372036854775808\x7d,\"BETWEEN\",null,[]]"

/-- Criteria with that node, and as well an update. -/
def recordText : String :=
  "\x7b\"entity\":\"Order\",\"conditions\":[" ++ eraText ++ "]\x7d"

end Shop

/-- Texts that are written in another way than they are read. -/
theorem Document.reread_compact_era :
    (∃ c, inText? Criteria.read? Shop.recordText = some c ∧ c.toJson.FloatsReadBack ∧
      inText? Criteria.read? c.toJson.compact = some c) ∧
    (∃ u, inText? Update.read? Shop.recordText = some u ∧ u.toJson.FloatsReadBack ∧
      inText? Update.read? u.toJson.compact = some u) ∧
    ∃ c, inText? Condition.read? Shop.eraText = some c ∧ c.toJson.FloatsReadBack ∧
      inText? Condition.read? c.toJson.compact = some c := by
  have criteria : (inText? Criteria.read? Shop.recordText).any (·.toJson.FloatsReadBack) := by
    decide +kernel
  have update : (inText? Update.read? Shop.recordText).any (·.toJson.FloatsReadBack) := by
    decide +kernel
  have node : (inText? Condition.read? Shop.eraText).any (·.toJson.FloatsReadBack) := by
    decide +kernel
  simp only [Option.any_eq_true, decide_eq_true_eq] at criteria update node
  obtain ⟨c, ofCriteria, back⟩ := criteria
  obtain ⟨u, ofUpdate, backUpdate⟩ := update
  obtain ⟨n, ofNode, backNode⟩ := node
  exact ⟨⟨c, ofCriteria, back, reread_compact.1 _ c ofCriteria back⟩,
    ⟨u, ofUpdate, backUpdate, reread_compact.2.1 _ u ofUpdate backUpdate⟩,
    ⟨n, ofNode, backNode, reread_compact.2.2 _ n ofNode backNode⟩⟩

end BoundQuery
