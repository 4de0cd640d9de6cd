import BoundQuery.Proofs.InkedText

/-!
# Registries over any run of calls

A registry is built call by call. A call is refused when an earlier entity has its script name, or
when one of its columns is blank, and a refused call changes nothing. So after any run of calls the
registry holds the accepted entities, one for each script name, and finds each of them by the names
that have its script name.

Script names are lowered names, and lowering twice is lowering once: no image of lower case is
itself the source of another.

## Main definitions

* `Catalog.afterCalls`, the registry after calls
* `Catalog.accepted`, the entities of the calls that were accepted
* `Catalog.Unambiguous`, one entity for each script name

## Main results

* `Text.lowerFirst_lowerFirst` — a lowered name stays as it is
* `Catalog.Unambiguous.afterCalls` — calls keep script names apart
* `Catalog.registered_after_calls` — acceptance, refusal, size and lookup after any run
-/

namespace BoundQuery

/-! ### Lowered names -/

namespace Text

/-- Do the code points from `low` to `high` keep out of the run? They do when they lie before or
behind it, or when both take every second code point and the two alternate. -/
def CaseRun.misses (r : CaseRun) (low high : Nat) (alternates : Bool) : Bool :=
  Nat.blt high r.first || Nat.blt r.last low ||
    (alternates && r.step == 2 && (low + r.first) % 2 == 1)

/-- Is the image of the run out of reach of lower case? -/
def CaseRun.settles (r : CaseRun) : Bool :=
  match (r.first + r.shift).toNat, (r.last + r.shift).toNat with
  | low, high =>
    (lowerExpansions.all fun e => Nat.blt high e.1 || Nat.blt e.1 low) &&
      lowerRuns.all fun q => q.misses low high (r.step == 2 || r.first == r.last)

theorem lowerRuns_settle : lowerRuns.all CaseRun.settles := by
  decide +kernel

/-- What a run of lower case gives has no expansion, and is in no run of lower case. -/
theorem settled_image {r : CaseRun} (member : r ∈ lowerRuns) {n : Nat} (holds : r.holds n) :
    (∀ e ∈ lowerExpansions, e.1 ≠ (n + r.shift).toNat) ∧
      ∀ q ∈ lowerRuns, q.holds (n + r.shift).toNat = false := by
  have settles := List.all_eq_true.mp lowerRuns_settle r member
  rw [CaseRun.settles, Bool.and_eq_true, List.all_eq_true, List.all_eq_true] at settles
  obtain ⟨above, -⟩ := lowerRuns_above r member
  simp only [CaseRun.holds, Bool.and_eq_true, decide_eq_true_eq, beq_iff_eq] at holds
  obtain ⟨⟨first, last⟩, step⟩ := holds
  constructor
  · intro e listed
    have apart := settles.1 e listed
    simp only [Bool.or_eq_true, Nat.blt_eq] at apart
    omega
  · intro q listed
    have apart := settles.2 q listed
    simp only [CaseRun.misses, Bool.or_eq_true, Bool.and_eq_true, Nat.blt_eq, beq_iff_eq] at apart
    by_contra image
    simp only [CaseRun.holds, Bool.not_eq_false, Bool.and_eq_true, decide_eq_true_eq,
      beq_iff_eq] at image
    obtain ⟨⟨first', last'⟩, step'⟩ := image
    rcases apart with (before | behind) | ⟨⟨alternates, two⟩, odd⟩
    · omega
    · omega
    · -- the image has the parity of its first point, and the other run has the other parity
      rw [two] at step'
      rcases alternates with steps | single
      · rw [steps] at step
        omega
      · omega

theorem lowerOf_of_outside {c : Char} (expansions : ∀ e ∈ lowerExpansions, e.1 ≠ c.toNat)
    (runs : ∀ r ∈ lowerRuns, r.holds c.toNat = false) : lowerOf c = [c] := by
  have noExpansion : (lowerExpansions.find? fun e => e.1 == c.toNat) = none :=
    List.find?_eq_none.mpr fun e member => by simpa using expansions e member
  have noRun : (lowerRuns.find? fun r => r.holds c.toNat) = none :=
    List.find?_eq_none.mpr fun r member => by simp [runs r member]
  rw [lowerOf, mapCase]
  simp only [noExpansion, noRun]

/-- Lower case leaves alone the first character of what it gave. -/
theorem lowerOf_of_lowerOf {c d : Char} {ds : List Char} (image : lowerOf c = d :: ds) :
    lowerOf d = [d] := by
  have whole := image
  rw [lowerOf, mapCase] at image
  split at image
  · next e images found =>
    -- the only expansion starts with an ASCII letter
    have listed := List.mem_of_find?_eq_some found
    rw [lowerExpansions, List.mem_singleton, Prod.mk.injEq] at listed
    obtain ⟨-, rfl⟩ := listed
    obtain ⟨rfl, -⟩ := List.cons.inj image
    decide +kernel
  · split at image
    · next r found =>
      have member := List.mem_of_find?_eq_some found
      have holds : r.holds c.toNat := by simpa using List.find?_some found
      obtain ⟨point, -⟩ := toNat_image_of_mem member holds
      obtain ⟨expansions, runs⟩ := settled_image member holds
      obtain ⟨rfl, -⟩ := List.cons.inj image
      rw [← point] at expansions runs
      exact lowerOf_of_outside expansions runs
    · obtain ⟨rfl, rfl⟩ := List.cons.inj image
      exact whole

theorem lowerOf_ne_nil (c : Char) : lowerOf c ≠ [] := by
  rw [lowerOf, mapCase]
  split
  · next e images found =>
    have listed := List.mem_of_find?_eq_some found
    rw [lowerExpansions, List.mem_singleton, Prod.mk.injEq] at listed
    rw [listed.2]
    exact List.cons_ne_nil _ _
  · split
    · exact List.cons_ne_nil _ _
    · exact List.cons_ne_nil _ _

/-- A lowered name stays as it is. -/
theorem lowerFirst_lowerFirst (s : String) : lowerFirst (lowerFirst s) = lowerFirst s := by
  rw [lowerFirst, lowerFirst, mapFirst.eq_def _ s]
  cases chars : s.toList with
  | nil => rfl
  | cons c cs =>
    cases image : lowerOf c with
    | nil => exact absurd image (lowerOf_ne_nil c)
    | cons d ds => simp [mapFirst, image, lowerOf_of_lowerOf image]

end Text

/-! ### Calls -/

namespace Catalog

/-- The registry after a call; a refused call leaves it as it was. -/
def afterCall (c : Catalog) (e : Entity) : Catalog :=
  match c.register e with
  | .ok next => next
  | .error _ => c

/-- The registry after calls, one after the other. -/
def afterCalls (c : Catalog) (calls : List Entity) : Catalog :=
  calls.foldl afterCall c

/-- The entities of the calls that were accepted. -/
def accepted (c : Catalog) : List Entity → List Entity
  | [] => []
  | e :: calls =>
    match c.register e with
    | .ok next => e :: next.accepted calls
    | .error _ => c.accepted calls

/-- Each script name has one entity. -/
def Unambiguous (c : Catalog) : Prop :=
  c.entities.Pairwise fun e f => e.scriptName ≠ f.scriptName

variable {c : Catalog} {e : Entity}

theorem exists_register_iff : (∃ next, c.register e = .ok next) ↔ c.Fresh e ∧ e.ColumnsInked := by
  rcases register_cases c e with ⟨fresh, columns, ok⟩ | ⟨taken, failed⟩ | ⟨fresh, q, member, blank, failed⟩
  · simp [fresh, columns, ok]
  · simp [taken, failed]
  · have blanks : ¬ e.ColumnsInked := fun columns => blank (columns q member)
    simp [blanks, failed]

theorem afterCall_of_error {error : CatalogError} (failed : c.register e = .error error) :
    c.afterCall e = c := by
  rw [afterCall, failed]

/-! ### Runs -/

theorem Unambiguous.register (one : c.Unambiguous) (fresh : c.Fresh e) :
    Unambiguous ⟨c.entities ++ [e]⟩ := by
  rw [Unambiguous, List.pairwise_append]
  refine ⟨one, List.pairwise_singleton _ _, fun f member g last => ?_⟩
  rw [List.mem_singleton.mp last]
  exact fresh f member

/-- A call keeps script names apart. -/
theorem Unambiguous.afterCall (one : c.Unambiguous) (e : Entity) : (c.afterCall e).Unambiguous := by
  rcases register_cases c e with ⟨fresh, -, ok⟩ | ⟨-, failed⟩ | ⟨-, q, -, -, failed⟩
  · rw [Catalog.afterCall, ok]
    exact one.register fresh
  · rwa [afterCall_of_error failed]
  · rwa [afterCall_of_error failed]

/-- So do calls one after the other. -/
theorem Unambiguous.afterCalls (one : c.Unambiguous) (calls : List Entity) :
    (c.afterCalls calls).Unambiguous := by
  induction calls generalizing c with
  | nil => exact one
  | cons e calls ih => exact ih (one.afterCall e)

/-- Calls add the accepted entities in order, and change nothing else. -/
theorem entities_afterCalls (c : Catalog) (calls : List Entity) :
    (c.afterCalls calls).entities = c.entities ++ c.accepted calls := by
  induction calls generalizing c with
  | nil => exact (List.append_nil _).symm
  | cons e calls ih =>
    change ((c.afterCall e).afterCalls calls).entities = _
    rw [ih, afterCall, accepted]
    rcases register_cases c e with ⟨-, -, ok⟩ | ⟨-, failed⟩ | ⟨-, q, -, -, failed⟩
    · simp only [ok, List.append_assoc, List.singleton_append]
    · simp only [failed]
    · simp only [failed]

theorem afterCalls_append (c : Catalog) (calls further : List Entity) :
    c.afterCalls (calls ++ further) = (c.afterCalls calls).afterCalls further :=
  List.foldl_append

/-- A registry finds the entity whose script name a name has. -/
theorem Unambiguous.lookup?_eq_some_iff (one : c.Unambiguous) {name : String} :
    c.lookup? name = some e ↔ e ∈ c.entities ∧ Text.lowerFirst name = e.scriptName := by
  constructor
  · intro found
    have named := List.find?_some found
    exact ⟨mem_of_lookup? found, (beq_iff_eq.mp named).symm⟩
  · rintro ⟨member, named⟩
    obtain ⟨before, behind, entities⟩ := List.append_of_mem member
    refine List.find?_eq_some_iff_append.mpr ⟨by simp [named], before, behind, entities, ?_⟩
    -- the entities before it have other script names
    intro f earlier
    rw [Unambiguous, entities, List.pairwise_append] at one
    have other := one.2.2 f earlier e List.mem_cons_self
    simpa [named] using other

theorem unambiguous_run (calls : List Entity) : (empty.afterCalls calls).Unambiguous := by
  have start : empty.Unambiguous := List.Pairwise.nil
  exact start.afterCalls calls

/-- A run on an empty registry leaves the accepted entities. -/
theorem entities_run (calls : List Entity) :
    (empty.afterCalls calls).entities = empty.accepted calls :=
  entities_afterCalls empty calls

/-- What was accepted stays registered, whatever calls follow. -/
theorem mem_entities_run {calls : List Entity} (member : e ∈ empty.accepted calls)
    (further : List Entity) : e ∈ (empty.afterCalls (calls ++ further)).entities := by
  rw [afterCalls_append, entities_afterCalls, entities_run]
  exact List.mem_append_left _ member

end Catalog

/-- The names by which an entity denotes itself have its script name. -/
theorem Entity.lowerFirst_of_isSelf {e : Entity} {name : String} (self : e.isSelf name) :
    Text.lowerFirst name = e.scriptName := by
  rw [isSelf, Bool.or_eq_true, beq_iff_eq, beq_iff_eq] at self
  rcases self with rfl | rfl
  · rfl
  · exact Text.lowerFirst_lowerFirst e.name

namespace Catalog

/-- After any run of calls on an empty registry: the next call is accepted exactly when its entity
has a script name that no accepted entity has, and no blank column; a refused call leaves the
registry as it was, and a taken script name is reported before a blank column; there are as many
entities as accepted calls; and, whatever calls follow, an accepted entity is what exactly the names
with its script name find, among them its name, its script name and all names by which it denotes
itself. -/
theorem registered_after_calls (calls : List Entity) :
    (∀ e, (∃ next, (empty.afterCalls calls).register e = .ok next) ↔
      (∀ f ∈ empty.accepted calls, Text.lowerFirst f.name ≠ Text.lowerFirst e.name) ∧
        ∀ q ∈ e.properties.entries, Text.isBlankText q.2.column = false) ∧
    (∀ e error, (empty.afterCalls calls).register e = .error error →
      empty.afterCalls (calls ++ [e]) = empty.afterCalls calls ∧
      ((∃ f ∈ empty.accepted calls, Text.lowerFirst f.name = Text.lowerFirst e.name) ∧
          error = .duplicateEntity e.name ∨
        (∀ f ∈ empty.accepted calls, Text.lowerFirst f.name ≠ Text.lowerFirst e.name) ∧
          ∃ q ∈ e.properties.entries, Text.isBlankText q.2.column ∧
            error = .emptyColumn e.name q.1)) ∧
    (empty.afterCalls calls).size = (empty.accepted calls).length ∧
    (∀ e name, (empty.afterCalls calls).lookup? name = some e ↔
      e ∈ empty.accepted calls ∧ Text.lowerFirst name = Text.lowerFirst e.name) ∧
    ∀ e ∈ empty.accepted calls, ∀ further,
      (∀ name, (empty.afterCalls (calls ++ further)).lookup? name = some e ↔
        Text.lowerFirst name = Text.lowerFirst e.name) ∧
      (∀ name, e.isSelf name → (empty.afterCalls (calls ++ further)).lookup? name = some e) ∧
      (empty.afterCalls (calls ++ further)).lookup? e.name = some e ∧
      (empty.afterCalls (calls ++ further)).lookup? e.scriptName = some e := by
  have fresh : ∀ e, (empty.afterCalls calls).Fresh e ↔
      ∀ f ∈ empty.accepted calls, Text.lowerFirst f.name ≠ Text.lowerFirst e.name := by
    intro e
    rw [Fresh, entities_run]
    rfl
  refine ⟨fun e => ?_, fun e error failed => ?_, ?_, fun e name => ?_, fun e member further => ?_⟩
  · rw [exists_register_iff, fresh]
    rfl
  · refine ⟨?_, ?_⟩
    · rw [afterCalls_append]
      exact afterCall_of_error failed
    · rcases register_cases (empty.afterCalls calls) e with ⟨-, -, ok⟩ | ⟨taken, other⟩ |
        ⟨new, q, member, blank, other⟩
      · rw [ok] at failed
        cases failed
      · rw [failed] at other
        rw [fresh] at taken
        push Not at taken
        exact .inl ⟨taken, Except.error.inj other⟩
      · rw [failed] at other
        exact .inr ⟨(fresh e).mp new, q, member, Text.not_inked_iff.mp blank,
          Except.error.inj other⟩
  · rw [size, entities_run]
  · rw [(unambiguous_run calls).lookup?_eq_some_iff, entities_run]
    rfl
  · have found : ∀ name, (empty.afterCalls (calls ++ further)).lookup? name = some e ↔
        Text.lowerFirst name = Text.lowerFirst e.name := by
      intro name
      rw [(unambiguous_run (calls ++ further)).lookup?_eq_some_iff]
      exact and_iff_right (mem_entities_run member further)
    refine ⟨found, ?_, ?_, ?_⟩
    · intro name self
      exact (found name).mpr (Entity.lowerFirst_of_isSelf self)
    · exact (found _).mpr rfl
    · exact (found _).mpr (Text.lowerFirst_lowerFirst e.name)

end Catalog

namespace Bank

def account : Entity where
  name := "Account"
  table := "t_account"
  properties := .ofList [("state", ⟨"account_state", .string, false, false⟩)]

/-- An entity with the script name of another, and with a blank column. -/
def namesake : Entity where
  name := "account"
  table := "t_account_2"
  properties := .ofList [("state", ⟨" ", .string, false, false⟩)]

end Bank

/-- The namesake of an account is refused for its name, and leaves the account what both spellings
of its name find. -/
theorem Catalog.registered_after_calls_namesake :
    (empty.afterCalls [Bank.account]).register Bank.namesake =
        .error (.duplicateEntity "account") ∧
      empty.afterCalls ([Bank.account] ++ [Bank.namesake]) =
        empty.afterCalls [Bank.account] ∧
      (empty.afterCalls ([Bank.account] ++ [Bank.namesake])).lookup? "account" =
        some Bank.account ∧
      (empty.afterCalls ([Bank.account] ++ [Bank.namesake])).lookup? "Account" =
        some Bank.account := by
  have refused : (empty.afterCalls [Bank.account]).register Bank.namesake =
      .error (.duplicateEntity "account") := rfl
  obtain ⟨-, refusals, -, -, lookups⟩ := registered_after_calls [Bank.account]
  obtain ⟨-, -, byName, byScriptName⟩ :=
    lookups Bank.account (List.mem_singleton.mpr rfl) [Bank.namesake]
  exact ⟨refused, (refusals _ _ refused).1, byScriptName, byName⟩

end BoundQuery
