import BoundQuery.Proofs.Fitting
import BoundQuery.Proofs.Resolution
import BoundQuery.Proofs.TrimmedText

/-!
# What resolution hands on

Resolution puts tables and columns in the place of words. So a property that solid texts have, and
that a text takes over from its parts, belongs to each resolved script, provided that the tables and
columns of the catalog have it. One such property is to have no outer blanks.

## Main definitions

* `Text.Carried`, properties that a text takes over from its parts
* `Entity.NamedBy`, `Catalog.NamedBy`, `Scope.NamedBy`, tables and columns with a property
* `Catalog.Trimmed`, `Scope.Trimmed`, trimmed tables and columns

## Main results

* `Text.Carried.script` — a script that is not blank resolves to a text with the property
* `Scope.Trimmed.script` — a script that is not blank resolves to a trimmed text
-/

namespace BoundQuery

namespace Text

/-- A property of solid texts that holds of a text when it holds at both ends, whatever stands in
the middle, and when it holds in the middle, with solid texts at the ends. -/
structure Carried (P : String → Prop) : Prop where
  solid : ∀ {s : String}, s ≠ "" → Solid s → P s
  append : ∀ {s t : String}, P s → ∀ middle, P t → P (s ++ middle ++ t)
  between : ∀ {s middle t : String}, Solid s → P middle → Solid t → P (s ++ middle ++ t)

variable {P : String → Prop}

theorem Carried.joinWith (carried : Carried P) (separator : String) {texts : List String}
    (given : texts ≠ []) (each : ∀ s ∈ texts, P s) : P (joinWith separator texts) := by
  fun_induction Text.joinWith separator texts with
  | case1 => exact absurd rfl given
  | case2 s => exact each s List.mem_cons_self
  | case3 s rest more ih =>
    rw [List.forall_mem_cons] at each
    exact carried.append each.1 separator (ih more each.2)

theorem ne_empty_of_isIdentifier {name : String} (identifier : isIdentifier name) :
    name ≠ "" := by
  rintro rfl
  cases identifier

end Text

open Text

/-! ### Names -/

/-- The table and the columns of the entity have the property. -/
structure Entity.NamedBy (P : String → Prop) (e : Entity) : Prop where
  table : P e.table
  columns : ∀ q ∈ e.properties.entries, P q.2.column

/-- The tables and columns of the catalog have the property. -/
def Catalog.NamedBy (P : String → Prop) (c : Catalog) : Prop :=
  ∀ e ∈ c.entities, e.NamedBy P

/-- The tables and columns of the scope have the property. -/
structure Scope.NamedBy (P : String → Prop) (s : Scope) : Prop where
  catalog : s.catalog.NamedBy P
  entity : s.entity.NamedBy P

variable {P : String → Prop}

namespace Entity

variable {e : Entity} {name : String}

theorem NamedBy.column (names : e.NamedBy P) (ofName : P name) :
    P ((e.column? name).getD name) := by
  cases found : e.column? name with
  | none => exact ofName
  | some column =>
    obtain ⟨property, known, rfl⟩ := Option.map_eq_some_iff.mp found
    exact names.columns _ (Dictionary.mem_of_find? known)

theorem NamedBy.qualifier (names : e.NamedBy P) (ofName : P name) : P (e.qualifier name) := by
  rw [Entity.qualifier]
  split
  · exact names.table
  · exact ofName

end Entity

namespace Scope

variable {s : Scope} {text sql : String}

theorem NamedBy.qualified (names : s.NamedBy P) {name : String} {e : Entity}
    (found : s.qualified name = .ok e) : e.NamedBy P := by
  simp only [Scope.qualified] at found
  split at found
  · next named =>
    rw [← Except.ok.inj found]
    exact names.catalog _ (Catalog.mem_of_lookup? named)
  · cases found

theorem NamedBy.simpleKey (names : s.NamedBy P) {name : String} (ofName : P name) :
    P (s.simpleKey name) := by
  rw [Scope.simpleKey, namedTable?]
  split
  · next table named =>
    split at named
    · obtain ⟨e, found, rfl⟩ := Option.map_eq_some_iff.mp named
      exact (names.catalog e (Catalog.mem_of_lookup? found)).table
    · cases named
  · split
    · exact names.entity.table
    · exact names.entity.column ofName

end Scope

/-! ### Resolution -/

namespace Text.Carried

variable {s : Scope} {text sql : String}

/-- A solid key resolves to a text with the property. -/
theorem key (carried : Carried P) (names : s.NamedBy P) (given : text ≠ "") (solid : Solid text)
    (resolved : s.key text = .ok sql) : P sql := by
  have ofText : P text := carried.solid given solid
  rw [Scope.key, trim_of_solid solid] at resolved
  split at resolved
  · next qualifier property cut =>
    split at resolved
    · next identifiers =>
      obtain ⟨e, found, result⟩ := Outcome.bind_eq_ok.mp resolved
      rw [Bool.and_eq_true] at identifiers
      -- both parts of the key are solid, since the key is
      have whole := eq_append_of_cutAt cut
      have ofQualifier : P qualifier :=
        carried.solid (ne_empty_of_isIdentifier identifiers.1) fun c member =>
          solid c (by rw [whole]; simp [member])
      have ofProperty : P property :=
        carried.solid (ne_empty_of_isIdentifier identifiers.2) fun c member =>
          solid c (by rw [whole]; simp [member])
      have ofEntity := names.qualified found
      rw [← Outcome.pure_eq_ok.mp result]
      exact carried.append (ofEntity.qualifier ofQualifier) "." (ofEntity.column ofProperty)
    · rw [← Except.ok.inj resolved]
      exact ofText
  · rw [← Except.ok.inj resolved]
    exact names.simpleKey ofText

/-- A solid token resolves to a text with the property. -/
theorem token (carried : Carried P) (names : s.NamedBy P) (given : text ≠ "") (solid : Solid text)
    (resolved : s.token text = .ok sql) : P sql := by
  have whole := Scope.tokenParts_append text.toList
  rw [Scope.token] at resolved
  split at resolved
  · rw [← Except.ok.inj resolved]
    exact carried.solid given solid
  · next outer core trailer isCore parts =>
    obtain ⟨key, found, result⟩ := Outcome.bind_eq_ok.mp resolved
    rw [parts] at whole
    -- only the core is resolved; what stands around it stays, and has no blank in it
    have part : ∀ cs : List Char, (∀ c ∈ cs, c ∈ outer ++ core ++ trailer) →
        Solid (String.ofList cs) := by
      intro cs within c member
      rw [String.toList_ofList] at member
      exact solid c (by rw [← whole]; exact within c member)
    have ofKey : P key := by
      refine carried.key names ?_ (part core fun c member => by simp [member]) found
      intro empty
      exact isCore (by simpa using empty)
    rw [← Outcome.pure_eq_ok.mp result]
    exact carried.between (part outer fun c member => by simp [member]) ofKey
      (part trailer fun c member => by simp [member])

/-- A script that is not blank resolves to a text with the property. -/
theorem script (carried : Carried P) (names : s.NamedBy P) (given : isBlankText text = false)
    (resolved : s.script text = .ok sql) : P sql := by
  obtain ⟨tokens, each, result⟩ := Outcome.bind_eq_ok.mp resolved
  rw [← Outcome.pure_eq_ok.mp result]
  apply carried.joinWith
  · -- each word has its token, and there is a word
    rintro rfl
    have none := List.forall₂_nil_right_iff.mp (Outcome.mapM_eq_ok_iff.mp each)
    exact words_ne_nil given none
  · refine Outcome.forall_of_mapM each fun word member token found => ?_
    obtain ⟨nonempty, solid⟩ := solid_of_mem_words member
    exact carried.token names nonempty solid found

end Text.Carried

/-! ### Trimmed names -/

theorem Text.carried_isTrimmed : Carried (isTrimmed ·) where
  solid := isTrimmed_of_solid
  append := isTrimmed_append
  between left trimmed right := isTrimmed_between left trimmed right

/-- The table and the columns of the entity are trimmed. -/
structure Entity.Trimmed (e : Entity) : Prop where
  table : isTrimmed e.table
  columns : ∀ q ∈ e.properties.entries, isTrimmed q.2.column

/-- The tables and columns of the catalog are trimmed. -/
def Catalog.Trimmed (c : Catalog) : Prop :=
  ∀ e ∈ c.entities, e.Trimmed

/-- The tables and columns of the scope are trimmed. -/
structure Scope.Trimmed (s : Scope) : Prop where
  catalog : s.catalog.Trimmed
  entity : s.entity.Trimmed

namespace Scope

variable {s : Scope} {text sql : String}

theorem Trimmed.namedBy (trimmed : s.Trimmed) : s.NamedBy (isTrimmed ·) where
  catalog e member := ⟨(trimmed.catalog e member).table, (trimmed.catalog e member).columns⟩
  entity := ⟨trimmed.entity.table, trimmed.entity.columns⟩

/-- A script that is not blank resolves to a trimmed text. -/
theorem Trimmed.script (trimmed : s.Trimmed) (given : isBlankText text = false)
    (resolved : s.script text = .ok sql) : isTrimmed sql :=
  carried_isTrimmed.script trimmed.namedBy given resolved

/-- What a script resolves to is empty or trimmed. -/
theorem Trimmed.script_of_ne_empty (trimmed : s.Trimmed) (given : sql ≠ "")
    (resolved : s.script text = .ok sql) : isTrimmed sql := by
  by_cases blank : isBlankText text
  · rw [script_of_blank blank] at resolved
    exact absurd (Except.ok.inj resolved).symm given
  · exact trimmed.script (by simpa using blank) resolved

end Scope

end BoundQuery
