import BoundQuery.Catalog.Draft
import BoundQuery.Proofs.ResolvedText

/-!
# Texts that are not blank

A text is inked when it has a character that is no blank. A catalog that was built from a draft has
inked tables and columns only, so a script that is not blank resolves to a text that is not blank.

## Main definitions

* `Text.Inked`, texts that are not blank

## Main results

* `Text.trim_eq_empty_iff` — only blank texts trim to nothing
* `Catalog.register_cases` — what a call of a registry can do
* `CatalogDraft.exists_draft` — where the entities of a built catalog come from
* `CatalogDraft.inked_of_build` — the tables and columns of a built catalog are inked
* `Filter.Emits.inked` — the body of a leaf is inked
-/

namespace BoundQuery

namespace Text

/-- A text with a character that is no blank. -/
def Inked (s : String) : Prop :=
  isBlankText s = false

variable {s t : String}

/-- The marks are the characters that are no blanks. -/
theorem inked_iff_marks : Inked s ↔ marks (fun c => !isBlank c) s ≠ [] := by
  rw [Inked, isBlankText, Ne, marks_eq_nil_iff, List.all_eq_false]
  simp

theorem not_inked_iff : ¬ Inked s ↔ isBlankText s := by
  rw [Inked, Bool.not_eq_false]

theorem Inked.append_right (inked : Inked s) (t : String) : Inked (s ++ t) := by
  rw [inked_iff_marks, marks_append] at *
  exact List.append_ne_nil_of_left_ne_nil inked _

theorem Inked.append_left (inked : Inked t) (s : String) : Inked (s ++ t) := by
  rw [inked_iff_marks, marks_append] at *
  exact List.append_ne_nil_of_right_ne_nil _ inked

theorem inked_of_solid (given : s ≠ "") (solid : Solid s) : Inked s := by
  rw [inked_iff_marks, Ne, marks_eq_nil_iff]
  intro blank
  cases chars : s.toList with
  | nil => exact given (by simpa using chars)
  | cons c cs =>
    have first : c ∈ s.toList := by rw [chars]; exact List.mem_cons_self
    have ink := blank c first
    rw [solid c first] at ink
    cases ink

theorem carried_inked : Carried Inked where
  solid := inked_of_solid
  append left middle _ := (left.append_right middle).append_right _
  between _ middle _ := (middle.append_left _).append_right _

theorem inked_trim : Inked (trim s) ↔ Inked s := by
  rw [inked_iff_marks, inked_iff_marks, marks_trim]
  intro c blank
  rw [blank]
  rfl

/-- Only blank texts trim to nothing. -/
theorem trim_eq_empty_iff : trim s = "" ↔ isBlankText s := by
  constructor
  · intro empty
    rw [← not_inked_iff, ← inked_trim, empty]
    exact Bool.noConfusion
  · exact trim_of_blank

end Text

open Text

/-! ### Built catalogs -/

/-- An entity that was built has the trimmed name and table of its draft, which are not blank. -/
theorem EntityDraft.build_eq_ok {d : EntityDraft} {e : Entity} (ok : d.build = .ok e) :
    (e.name = trim d.name ∧ Inked d.name) ∧ e.table = trim d.table ∧ Inked d.table := by
  rw [build] at ok
  split at ok
  · cases ok
  · next given =>
    obtain ⟨properties, -, result⟩ := Outcome.bind_eq_ok.mp ok
    rw [Bool.or_eq_true, not_or, Bool.not_eq_true, Bool.not_eq_true] at given
    rw [← Outcome.pure_eq_ok.mp result]
    exact ⟨⟨rfl, given.1⟩, rfl, given.2⟩

/-- No column of the entity is blank. -/
def Entity.ColumnsInked (e : Entity) : Prop :=
  ∀ q ∈ e.properties.entries, Inked q.2.column

namespace Catalog

variable {c c' : Catalog}

/-- No entity of the registry has the script name of the entity. -/
def Fresh (c : Catalog) (e : Entity) : Prop :=
  ∀ f ∈ c.entities, f.scriptName ≠ e.scriptName

/-- What a call can do: an entity with a new script name and without blank columns comes last; one
whose script name is taken is refused for that, whatever its columns; any other is refused for one
of its blank columns. -/
theorem register_cases (c : Catalog) (e : Entity) :
    (c.Fresh e ∧ e.ColumnsInked ∧ c.register e = .ok ⟨c.entities ++ [e]⟩) ∨
      (¬ c.Fresh e ∧ c.register e = .error (.duplicateEntity e.name)) ∨
      (c.Fresh e ∧ ∃ q ∈ e.properties.entries, ¬ Inked q.2.column ∧
        c.register e = .error (.emptyColumn e.name q.1)) := by
  rw [register]
  by_cases fresh : c.Fresh e
  · have new : (c.entities.any fun f => f.scriptName == e.scriptName) = false := by
      simpa [Fresh] using fresh
    simp only [new, Bool.false_eq_true, if_false]
    cases blank : blankColumn? e with
    | none =>
      have columns : e.ColumnsInked := by
        intro q member
        have given := List.find?_eq_none.mp (Option.map_eq_none_iff.mp blank) q member
        rwa [Bool.not_eq_true] at given
      exact .inl ⟨fresh, columns, rfl⟩
    | some property =>
      obtain ⟨q, found, rfl⟩ := Option.map_eq_some_iff.mp blank
      have isBlank := List.find?_some found
      exact .inr (.inr ⟨fresh, q, List.mem_of_find?_eq_some found,
        not_inked_iff.mpr isBlank, rfl⟩)
  · have taken : c.entities.any fun f => f.scriptName == e.scriptName := by
      simpa [Fresh] using fresh
    rw [if_pos taken]
    exact .inr (.inl ⟨fresh, rfl⟩)

/-- A registered entity has no blank column, and comes last. -/
theorem register_eq_ok {e : Entity} (ok : c.register e = .ok c') :
    c'.entities = c.entities ++ [e] ∧ e.ColumnsInked := by
  rcases register_cases c e with ⟨-, columns, accepted⟩ | ⟨-, refused⟩ | ⟨-, q, -, -, refused⟩
  · rw [accepted] at ok
    rw [← Except.ok.inj ok]
    exact ⟨rfl, columns⟩
  · rw [refused] at ok
    cases ok
  · rw [refused] at ok
    cases ok

/-- Each entity of a catalog that drafts were registered to was there, or was built from one of them
and has no blank column. -/
theorem mem_registerDrafts {ds : List EntityDraft} (ok : c.registerDrafts ds = .ok c') :
    ∀ e ∈ c'.entities, e ∈ c.entities ∨ e.ColumnsInked ∧ ∃ d ∈ ds, d.build = .ok e := by
  induction ds generalizing c with
  | nil =>
    rw [registerDrafts] at ok
    rw [← Except.ok.inj ok]
    exact fun e member => .inl member
  | cons d ds ih =>
    rw [registerDrafts] at ok
    obtain ⟨built, isBuilt, ok⟩ := Outcome.bind_eq_ok.mp ok
    obtain ⟨next, registered, ok⟩ := Outcome.bind_eq_ok.mp ok
    obtain ⟨entities, columns⟩ := register_eq_ok registered
    intro e member
    rcases ih ok e member with member | ⟨inked, draft, isDraft, ofDraft⟩
    · rw [entities, List.mem_append, List.mem_singleton] at member
      rcases member with member | rfl
      · exact .inl member
      · exact .inr ⟨columns, d, List.mem_cons_self, isBuilt⟩
    · exact .inr ⟨inked, draft, List.mem_cons_of_mem d isDraft, ofDraft⟩

end Catalog

namespace CatalogDraft

variable {d : CatalogDraft} {c : Catalog}

/-- Each entity of a built catalog was built from one of the drafts, and has no blank column. -/
theorem exists_draft (ok : d.build = .ok c) :
    ∀ e ∈ c.entities, e.ColumnsInked ∧ ∃ draft ∈ d.entities, draft.build = .ok e := by
  intro e member
  exact (Catalog.mem_registerDrafts ok e member).resolve_left List.not_mem_nil

/-- The tables and columns of a built catalog are inked. -/
theorem inked_of_build (ok : d.build = .ok c) : c.NamedBy Inked := by
  intro e member
  obtain ⟨columns, draft, -, built⟩ := exists_draft ok e member
  obtain ⟨-, table, given⟩ := EntityDraft.build_eq_ok built
  refine ⟨?_, columns⟩
  rw [table]
  exact inked_trim.mpr given

/-- The entities of a built catalog have names. -/
theorem name_ne_empty (ok : d.build = .ok c) : ∀ e ∈ c.entities, e.name ≠ "" := by
  intro e member empty
  obtain ⟨-, draft, -, built⟩ := exists_draft ok e member
  obtain ⟨⟨name, given⟩, -⟩ := EntityDraft.build_eq_ok built
  rw [name, trim_eq_empty_iff, ← not_inked_iff] at empty
  exact empty given

end CatalogDraft

/-! ### Leaves -/

namespace Scope

variable {s : Scope} {text sql : String}

theorem NamedBy.script (names : s.NamedBy Inked) (given : Inked text)
    (resolved : s.script text = .ok sql) : Inked sql :=
  carried_inked.script names given resolved

end Scope

/-- The body of a leaf is inked. -/
theorem Filter.Emits.inked {f : Filter} {c : Condition} {b : Fragment}
    (names : f.scope.NamedBy Inked) (emits : f.Emits c b) : Inked b.sql := by
  cases emits with
  | @script sql shape resolved given =>
    -- a blank script would have resolved to nothing
    have inked : Inked c.key := by
      by_contra blank
      rw [Scope.script_of_blank (not_inked_iff.mp blank)] at resolved
      exact given (Except.ok.inj resolved).symm
    have text := names.script inked resolved
    simpa [Piece.sql] using text
  | nullCheck shape given resolved => exact (names.script given resolved).append_right _
  | comparison shape given present some resolved follows =>
    exact (names.script some resolved).append_right _

end BoundQuery
