import BoundQuery.Proofs.Dictionaries
import BoundQuery.Proofs.Marks
import BoundQuery.Proofs.Outcome
import BoundQuery.Scope.Basic

/-!
# Resolution keeps marks

Resolving names replaces identifiers by table and column names and leaves all other text alone. So
where no name of the catalog holds a mark, a resolved script has the marks of the script, in order.

## Main definitions

* `Entity.Lacks`, `Catalog.Lacks`, `Scope.Lacks`, names without marks

## Main results

* `Source.isIdentifier_of_mem_aliases` — a source declares identifiers only
* `Scope.Lacks.marks_key`, `Scope.Lacks.marks_script` — resolution keeps the marks
-/

namespace BoundQuery

/-! ### Names that a source declares -/

namespace Source

theorem isName_of_takeAlias {ts : List String} {name : String}
    (taken : (takeAlias ts).1 = some name) : isName name := by
  rw [takeAlias] at taken
  split at taken
  · cases taken
  · next a rest _ =>
    split at taken
    · next named =>
      rw [← Option.some.inj taken]
      exact named
    · cases taken

/-- Entities and aliases of a source are names. -/
theorem isName_of_mem_declarations {expecting : Bool} {ts : List String} {e : String × String}
    (member : e ∈ declarations expecting ts) : isName e.1 ∧ isName e.2 := by
  fun_induction declarations expecting ts with
  | case1 => cases member
  | case2 expecting t rest announces ih => exact ih member
  | case3 expecting t rest _ named next ih =>
    rw [Bool.and_eq_true] at named
    rcases List.mem_append.mp member with member | member
    · rcases List.mem_cons.mp member with rfl | member
      · exact ⟨named.2, named.2⟩
      · rw [Option.mem_toList] at member
        obtain ⟨name, taken, rfl⟩ := Option.map_eq_some_iff.mp member
        exact ⟨isName_of_takeAlias taken, named.2⟩
    · exact ih member
  | case4 expecting t rest _ _ ih => exact ih member

theorem isIdentifier_of_isName {name : String} (named : isName name) : Text.isIdentifier name := by
  rw [isName, Bool.and_eq_true] at named
  exact named.2

/-- A source declares identifiers only. -/
theorem isIdentifier_of_mem_aliases {script : String} {e : String × String}
    (member : e ∈ (aliases script).entries) : Text.isIdentifier e.1 :=
  isIdentifier_of_isName (isName_of_mem_declarations (Dictionary.mem_of_mem_ofList member)).1

end Source

/-! ### Names without marks -/

open Text

variable {p : Char → Bool}

/-- No name of the entity holds a mark. -/
structure Entity.Lacks (p : Char → Bool) (e : Entity) : Prop where
  name : marks p e.name = []
  table : marks p e.table = []
  properties : ∀ q ∈ e.properties.entries, marks p q.1 = [] ∧ marks p q.2.column = []

/-- No name of the catalog holds a mark. -/
def Catalog.Lacks (p : Char → Bool) (c : Catalog) : Prop :=
  ∀ e ∈ c.entities, e.Lacks p

/-- No name of the catalog holds a mark, nor one of the entity that keys are resolved for. -/
structure Scope.Lacks (p : Char → Bool) (s : Scope) : Prop where
  catalog : s.catalog.Lacks p
  entity : s.entity.Lacks p

namespace Entity

variable {e : Entity} {name column : String}

theorem Lacks.of_property (lacks : e.Lacks p) {property : Property}
    (found : e.property? name = some property) :
    marks p name = [] ∧ marks p property.column = [] :=
  lacks.properties _ (Dictionary.mem_of_find? found)

theorem Lacks.of_column (lacks : e.Lacks p) (found : e.column? name = some column) :
    marks p name = [] ∧ marks p column = [] := by
  obtain ⟨property, known, rfl⟩ := Option.map_eq_some_iff.mp found
  exact lacks.of_property known

/-- A known property's column and the unknown property itself have the same marks. -/
theorem Lacks.marks_column (lacks : e.Lacks p) (name : String) :
    marks p ((e.column? name).getD name) = marks p name := by
  cases found : e.column? name with
  | none => rfl
  | some column =>
    obtain ⟨ofName, ofColumn⟩ := lacks.of_column found
    rw [Option.getD_some, ofColumn, ofName]

theorem Lacks.scriptName (lacks : e.Lacks p) (marked : MarkClass p) :
    marks p e.scriptName = [] :=
  marked.marks_lowerFirst lacks.name

theorem Lacks.of_isSelf (lacks : e.Lacks p) (marked : MarkClass p) (self : e.isSelf name) :
    marks p name = [] := by
  rw [isSelf, Bool.or_eq_true, beq_iff_eq, beq_iff_eq] at self
  rcases self with rfl | rfl
  · exact lacks.name
  · exact lacks.scriptName marked

theorem Lacks.qualifier (lacks : e.Lacks p) (unmarked : marks p name = []) :
    marks p (e.qualifier name) = [] := by
  rw [Entity.qualifier]
  split
  · exact lacks.table
  · exact unmarked

end Entity

theorem Catalog.mem_of_lookup? {c : Catalog} {name : String} {e : Entity}
    (found : c.lookup? name = some e) : e ∈ c.entities :=
  List.mem_of_find?_eq_some found

namespace Scope

variable {s : Scope} {text sql : String}

theorem Lacks.qualified (lacks : s.Lacks p) {name : String} {e : Entity}
    (found : s.qualified name = .ok e) : e.Lacks p := by
  simp only [Scope.qualified] at found
  split at found
  · next named =>
    rw [← Except.ok.inj found]
    exact lacks.catalog _ (Catalog.mem_of_lookup? named)
  · cases found

/-- Whatever the aliases are, a name with marks is no name of the catalog. -/
theorem Lacks.marks_simpleKey (lacks : s.Lacks p) (marked : MarkClass p) (name : String) :
    marks p (s.simpleKey name) = marks p name := by
  rw [simpleKey, namedTable?]
  split
  · next table named =>
    split at named
    · obtain ⟨e, found, rfl⟩ := Option.map_eq_some_iff.mp named
      have named := lacks.catalog e (Catalog.mem_of_lookup? found)
      have lowered : e.scriptName = lowerFirst name := by simpa using List.find?_some found
      rw [named.table, marked.marks_of_lowerFirst (lowered ▸ named.scriptName marked)]
    · cases named
  · split
    · next self =>
      rw [lacks.entity.of_isSelf marked self]
      exact lacks.entity.table
    · exact lacks.entity.marks_column name

/-- Resolving a key keeps its marks. -/
theorem Lacks.marks_key (lacks : s.Lacks p) (marked : MarkClass p)
    (resolved : s.key text = .ok sql) : marks p sql = marks p text := by
  rw [key] at resolved
  rw [← marks_trim marked.not_blank (s := text)]
  split at resolved
  · next qualifier property cut =>
    split at resolved
    · next identifiers =>
      obtain ⟨e, found, result⟩ := Outcome.bind_eq_ok.mp resolved
      rw [Bool.and_eq_true] at identifiers
      -- identifiers and names have no marks, so the point is all there is on both sides
      have ofQualifier := marked.marks_identifier identifiers.1
      have ofProperty := marked.marks_identifier identifiers.2
      have named := lacks.qualified found
      rw [← Outcome.pure_eq_ok.mp result, Text.eq_append_of_cutAt cut]
      simp only [marks_append, named.qualifier ofQualifier, named.marks_column, ofProperty,
        ofQualifier]
      rfl
    · rw [← Except.ok.inj resolved]
  · rw [← Except.ok.inj resolved]
    exact lacks.marks_simpleKey marked _

/-- The parts of a token make up the token. -/
theorem tokenParts_append (cs : List Char) :
    (tokenParts cs).1 ++ (tokenParts cs).2.1 ++ (tokenParts cs).2.2 = cs := by
  have halves : ∀ (q : Char → Bool) (ds : List Char),
      (ds.reverse.dropWhile q).reverse ++ (ds.reverse.takeWhile q).reverse = ds := by
    intro q ds
    rw [← List.reverse_append, List.takeWhile_append_dropWhile, List.reverse_reverse]
  simp only [tokenParts, List.append_assoc, halves]

/-- Resolving a token keeps its marks. -/
theorem Lacks.marks_token (lacks : s.Lacks p) (marked : MarkClass p)
    (resolved : s.token text = .ok sql) : marks p sql = marks p text := by
  have whole := tokenParts_append text.toList
  rw [token] at resolved
  split at resolved
  · rw [← Except.ok.inj resolved]
  · next outer core trailer _ parts =>
    obtain ⟨key, found, result⟩ := Outcome.bind_eq_ok.mp resolved
    rw [parts] at whole
    have textParts : text = String.ofList (outer ++ core ++ trailer) := by
      rw [whole, String.ofList_toList]
    rw [← Outcome.pure_eq_ok.mp result, textParts]
    simp only [marks_append, marks_ofList, List.filter_append, lacks.marks_key marked found]

/-- Resolving a script keeps its marks. -/
theorem Lacks.marks_script (lacks : s.Lacks p) (marked : MarkClass p)
    (resolved : s.script text = .ok sql) : marks p sql = marks p text := by
  obtain ⟨tokens, each, result⟩ := Outcome.bind_eq_ok.mp resolved
  have blank : marks p " " = [] := marks_eq_nil_iff.mpr fun c member =>
    marked.not_blank c (by rw [List.mem_singleton.mp member]; rfl)
  rw [← Outcome.pure_eq_ok.mp result, marks_joinWith blank, ← marks_words marked.not_blank]
  have kept : List.Forall₂ (fun word token => marks p word = marks p token) (words text) tokens :=
    (Outcome.mapM_eq_ok_iff.mp each).imp fun word token found =>
      (lacks.marks_token marked found).symm
  rw [List.flatMap_def, List.flatMap_def, Outcome.map_eq_map_of_forall₂ kept]

/-- Text without marks resolves to text without marks. -/
theorem Lacks.script_eq_nil (lacks : s.Lacks p) (marked : MarkClass p)
    (resolved : s.script text = .ok sql) (unmarked : marks p text = []) : marks p sql = [] := by
  rw [lacks.marks_script marked resolved, unmarked]

end Scope

end BoundQuery
