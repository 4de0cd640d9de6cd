/-!
# Dictionaries

A dictionary maps names to values. A name that is put again keeps its place and takes the new value.

## Main definitions

* `Dictionary`, with `find?`, `insert`, `size`
* `Dictionary.nameOf?`, the first name of a value
-/

namespace BoundQuery

/-- Names with their values, in the order in which the names came. -/
structure Dictionary (α : Type) where
  entries : List (String × α)

namespace Dictionary

variable {α : Type}

/-- No names. -/
def empty : Dictionary α := ⟨[]⟩

instance : Inhabited (Dictionary α) := ⟨empty⟩

/-- The value of a name. -/
def find? (d : Dictionary α) (name : String) : Option α :=
  (d.entries.find? fun e => e.1 == name).map Prod.snd

/-- Replace the value of a name in its place, or put the name last. -/
def insertEntry (entries : List (String × α)) (name : String) (value : α) : List (String × α) :=
  match entries with
  | [] => [(name, value)]
  | (n, v) :: rest =>
    if n = name then (n, value) :: rest else (n, v) :: insertEntry rest name value

/-- The dictionary with a value for a name. -/
def insert (d : Dictionary α) (name : String) (value : α) : Dictionary α :=
  ⟨insertEntry d.entries name value⟩

/-- The entries after a replacement, by name. -/
theorem find?_insertEntry (entries : List (String × α)) (name other : String) (value : α) :
    ((insertEntry entries name value).find? fun e => e.1 == other).map Prod.snd =
      if other = name then some value
      else (entries.find? fun e => e.1 == other).map Prod.snd := by
  induction entries with
  | nil =>
    by_cases h : other = name
    · simp [insertEntry, h]
    · simp [insertEntry, h, Ne.symm h]
  | cons e rest ih =>
    obtain ⟨n, v⟩ := e
    rw [insertEntry]
    by_cases hn : n = name <;> by_cases ho : n = other <;> grind

/-- After `insert` the name has the new value, and all other names keep theirs. -/
theorem find?_insert (d : Dictionary α) (name other : String) (value : α) :
    (d.insert name value).find? other = if other = name then some value else d.find? other :=
  find?_insertEntry d.entries name other value

/-- The number of names. -/
def size (d : Dictionary α) : Nat :=
  d.entries.length

/-- Is there no name? -/
def isEmpty (d : Dictionary α) : Bool :=
  d.entries.isEmpty

/-- The first name with a value. -/
def nameOf? [BEq α] (d : Dictionary α) (value : α) : Option String :=
  (d.entries.find? fun e => e.2 == value).map Prod.fst

/-- The dictionary of a list of entries; of repeated names the last value counts. -/
def ofList (entries : List (String × α)) : Dictionary α :=
  entries.foldl (fun d e => d.insert e.1 e.2) empty

/-- The entries in the order of their names. -/
def sorted (d : Dictionary α) : List (String × α) :=
  d.entries.mergeSort fun a b => a.1 ≤ b.1

end Dictionary

end BoundQuery
