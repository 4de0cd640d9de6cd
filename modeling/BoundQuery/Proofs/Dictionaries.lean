import BoundQuery.Dictionary
import Mathlib.Data.List.Basic

/-!
# Dictionaries

A list of entries is put into a dictionary one entry after the other. The result holds entries of the
list and of the dictionary only. Of the entries with one name the last one counts, and a name that the
list does not hold keeps its value.

## Main definitions

* `Dictionary.insertAll`, a list of entries put one after the other

## Main results

* `Dictionary.mem_insertAll`, `Dictionary.find?_insertAll` — the entries and the values of the result
* `Dictionary.size_insert` — only a new name makes a dictionary grow
* `Dictionary.nameOf?_eq_some` — the name of a value that has one name only
-/

namespace BoundQuery.Dictionary

variable {α : Type} {d : Dictionary α} {name : String} {value : α}

/-- The dictionary with a list of entries put one after the other. -/
def insertAll (d : Dictionary α) (entries : List (String × α)) : Dictionary α :=
  entries.foldl (fun d e => d.insert e.1 e.2) d

/-! ### Entries -/

theorem mem_of_find? (found : d.find? name = some value) : (name, value) ∈ d.entries := by
  obtain ⟨entry, first, rfl⟩ := Option.map_eq_some_iff.mp found
  have same : entry.1 = name := by simpa using List.find?_some first
  rw [← same]
  exact List.mem_of_find?_eq_some first

theorem mem_insertEntry {entries : List (String × α)} {e : String × α}
    (member : e ∈ insertEntry entries name value) : e ∈ entries ∨ e = (name, value) := by
  induction entries with
  | nil => exact .inr (by simpa [insertEntry] using member)
  | cons first rest ih =>
    obtain ⟨n, v⟩ := first
    rw [insertEntry] at member
    split at member
    · next same =>
      rcases List.mem_cons.mp member with rfl | member
      · exact .inr (by rw [same])
      · exact .inl (List.mem_cons_of_mem _ member)
    · rcases List.mem_cons.mp member with rfl | member
      · exact .inl List.mem_cons_self
      · rcases ih member with member | same
        · exact .inl (List.mem_cons_of_mem _ member)
        · exact .inr same

/-- Putting a list of entries keeps old entries and adds entries of the list only. -/
theorem mem_insertAll {entries : List (String × α)} {e : String × α}
    (member : e ∈ (d.insertAll entries).entries) : e ∈ d.entries ∨ e ∈ entries := by
  induction entries generalizing d with
  | nil => exact .inl member
  | cons first rest ih =>
    rcases ih (d := d.insert first.1 first.2) member with member | member
    · rcases mem_insertEntry member with member | rfl
      · exact .inl member
      · exact .inr List.mem_cons_self
    · exact .inr (List.mem_cons_of_mem _ member)

/-- A dictionary of a list holds entries of the list only. -/
theorem mem_of_mem_ofList {entries : List (String × α)} {e : String × α}
    (member : e ∈ (ofList entries).entries) : e ∈ entries := by
  rcases mem_insertAll (d := empty) member with member | member
  · cases member
  · exact member

/-! ### Values -/

/-- Of repeated names the last entry counts; names that are not in the list keep their values. -/
theorem find?_insertAll (entries : List (String × α)) (name : String) :
    (d.insertAll entries).find? name =
      ((entries.reverse.find? fun e => e.1 == name).map Prod.snd).or (d.find? name) := by
  induction entries generalizing d with
  | nil => rfl
  | cons e rest ih =>
    have step : (d.insertAll (e :: rest)).find? name =
        ((d.insert e.1 e.2).insertAll rest).find? name := rfl
    rw [step, ih, find?_insert, List.reverse_cons, List.find?_append, Option.map_or, Option.or_assoc]
    by_cases same : name = e.1
    · simp [same]
    · simp [same, Ne.symm same]

theorem find?_ofList (entries : List (String × α)) (name : String) :
    (ofList entries).find? name = (entries.reverse.find? fun e => e.1 == name).map Prod.snd :=
  (find?_insertAll (d := empty) entries name).trans Option.or_none

theorem find?_ofList_ne_none {entries : List (String × α)} (member : (name, value) ∈ entries) :
    (ofList entries).find? name ≠ none := by
  rw [find?_ofList, Ne, Option.map_eq_none_iff, List.find?_eq_none]
  exact fun absent => absent _ (List.mem_reverse.mpr member) (beq_self_eq_true name)

theorem find?_insertAll_of_not_mem {entries : List (String × α)}
    (other : ∀ e ∈ entries, e.1 ≠ name) : (d.insertAll entries).find? name = d.find? name := by
  have absent : entries.reverse.find? (fun e => e.1 == name) = none :=
    List.find?_eq_none.mpr fun e member => by simpa using other e (List.mem_reverse.mp member)
  rw [find?_insertAll, absent, Option.map_none, Option.none_or]

/-- A name to which the list gives one value only has that value. -/
theorem find?_insertAll_of_mem {entries : List (String × α)} (member : (name, value) ∈ entries)
    (agree : ∀ e ∈ entries, e.1 = name → e.2 = value) :
    (d.insertAll entries).find? name = some value := by
  rw [find?_insertAll]
  cases found : entries.reverse.find? fun e => e.1 == name with
  | none =>
    exact absurd (beq_self_eq_true name)
      (List.find?_eq_none.mp found _ (List.mem_reverse.mpr member))
  | some e =>
    have listed : e ∈ entries := List.mem_reverse.mp (List.mem_of_find?_eq_some found)
    have named : e.1 = name := by simpa using List.find?_some found
    rw [Option.map_some, Option.some_or, agree e listed named]

/-! ### Sizes -/

/-- Only a new name makes a dictionary grow. -/
theorem size_insert :
    (d.insert name value).size = if (d.find? name).isSome then d.size else d.size + 1 := by
  obtain ⟨entries⟩ := d
  rw [insert, size, size, find?]
  induction entries with
  | nil => rfl
  | cons e rest ih =>
    obtain ⟨other, v⟩ := e
    rw [insertEntry]
    by_cases same : other = name
    · simp [same]
    · rw [if_neg same, List.find?_cons_of_neg (by simpa using same), List.length_cons, ih]
      split
      · rfl
      · rfl

theorem size_insert_of_none (new : d.find? name = none) :
    (d.insert name value).size = d.size + 1 := by
  rw [size_insert, new]
  rfl

theorem size_le_insert : d.size ≤ (d.insert name value).size := by
  rw [size_insert]
  split
  · exact Nat.le_refl _
  · exact Nat.le_succ _

theorem size_le_insertAll (entries : List (String × α)) : d.size ≤ (d.insertAll entries).size := by
  induction entries generalizing d with
  | nil => exact Nat.le_refl _
  | cons e rest ih => exact Nat.le_trans size_le_insert ih

/-! ### Names of values -/

/-- The first name of a value, when the value has one name only. -/
theorem nameOf?_eq_some [BEq α] [LawfulBEq α] (member : (name, value) ∈ d.entries)
    (only : ∀ e ∈ d.entries, e.2 = value → e.1 = name) : d.nameOf? value = some name := by
  rw [nameOf?]
  cases found : d.entries.find? fun e => e.2 == value with
  | none => exact absurd (List.find?_eq_none.mp found _ member) (by simp)
  | some e =>
    have same : e.2 = value := by simpa using List.find?_some found
    rw [Option.map_some, only e (List.mem_of_find?_eq_some found) same]

theorem nameOf?_eq_none [BEq α] [LawfulBEq α] (absent : ∀ e ∈ d.entries, e.2 ≠ value) :
    d.nameOf? value = none := by
  rw [nameOf?, Option.map_eq_none_iff, List.find?_eq_none]
  intro e member
  simpa using absent e member

end BoundQuery.Dictionary
