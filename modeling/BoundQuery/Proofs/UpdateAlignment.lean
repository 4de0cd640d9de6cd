import BoundQuery.Proofs.Assignments
import BoundQuery.Proofs.BoundValues
import BoundQuery.Proofs.Fitting
import BoundQuery.Proofs.Spelled
import BoundQuery.Proofs.TrimmedText

/-!
# Placeholders and values of updates

An UPDATE statement has a part with its assignments and a part with its conditions, and its values
come in the same two parts. In each of them the placeholders stand for the values in order.

## Main definitions

* `UpdateStatement.setPart`, `UpdateStatement.wherePart`, the two parts
* `Update.assigned`, `Update.compared`, the values of the two parts
* `Update.Fits`, placeholders in scripts only

## Main results

* `UpdateStatement.whereClause_eq` — a WHERE clause keeps all placeholders of the conditions
* `Update.fill_parts` — the filled parts are the spelled ones
-/

namespace BoundQuery

open Text Placeholder

namespace UpdateStatement

/-- The statement up to its last assignment. -/
def setPart (u : UpdateStatement) : String :=
  "UPDATE " ++ u.table ++ " SET " ++ Fragment.sql (Fragment.joined ", " u.assignments)

/-- The rest of the statement. -/
def wherePart (u : UpdateStatement) : String :=
  if u.filterClause.isEmpty then "" else " " ++ u.filterClause

theorem sql_eq (u : UpdateStatement) : u.sql = u.setPart ++ u.wherePart := rfl

/-! ### The WHERE clause -/

theorem filter_of_all_blank {cs : List Char} (blank : cs.all isBlank) : cs.filter isMark = [] := by
  rw [List.filter_eq_nil_iff]
  intro c member mark
  have none := markClass.not_blank c (List.all_eq_true.mp blank c member)
  rw [mark] at none
  cases none

/-- A text is its trimmed text between blanks. -/
theorem eq_append_trim (s : String) :
    ∃ before after : String, s = before ++ trim s ++ after ∧ Free before ∧ Free after := by
  obtain ⟨before, after, whole, blank, blankEnd⟩ := toList_eq_trim s
  refine ⟨String.ofList before, String.ofList after, ?_, ?_, ?_⟩
  · rw [← String.toList_inj, whole, String.toList_append, String.toList_append,
      String.toList_ofList, String.toList_ofList]
  · rw [Free, marks_ofList, filter_of_all_blank blank]
  · rw [Free, marks_ofList, filter_of_all_blank blankEnd]

/-- A conjunction at the start of a text, in any case, holds no placeholder. -/
theorem eq_append_of_afterWord? {word text rest : List Char} (letters : '?' ∉ word)
    (found : afterWord? word text = some rest) :
    ∃ head, text = head ++ rest ∧ head.filter isMark = [] := by
  rw [afterWord?] at found
  split at found
  · next same =>
    rw [← Option.some.inj found]
    refine ⟨text.take word.length, (List.take_append_drop word.length text).symm, ?_⟩
    rw [List.filter_eq_nil_iff]
    intro c member mark
    rw [beq_iff_eq.mp mark] at member
    -- the upper case of a placeholder is a placeholder, and the word holds letters and a blank
    have upper : '?'.toUpper ∈ word := by
      rw [← same]
      exact List.mem_map_of_mem member
    exact letters upper
  · cases found

theorem eq_append_of_afterConjunction (text : List Char) :
    ∃ head, text = head ++
        (afterWord? "AND ".toList text <|> afterWord? "OR ".toList text).getD text ∧
      head.filter isMark = [] := by
  cases ofAnd : afterWord? "AND ".toList text with
  | some rest => exact eq_append_of_afterWord? (by decide) ofAnd
  | none =>
    cases ofOr : afterWord? "OR ".toList text with
    | some rest => exact eq_append_of_afterWord? (by decide) ofOr
    | none => exact ⟨[], rfl, rfl⟩

/-- A WHERE clause is empty, or is WHERE and what is left of the conditions without outer blanks and
a leading conjunction; what is dropped holds no placeholder. -/
theorem whereClause_eq (conditions : String) :
    ∃ lead dropped kept trailing : String, (lead = "" ∧ kept = "" ∨ lead = "WHERE ") ∧
      whereClause conditions = lead ++ kept ∧ conditions = dropped ++ kept ++ trailing ∧
      Free dropped ∧ Free trailing := by
  obtain ⟨before, after, whole, beforeFree, afterFree⟩ := eq_append_trim conditions
  rw [whereClause]
  split
  · next empty =>
    have none : trim conditions = "" := by
      rw [← String.toList_inj]
      simpa using empty
    rw [none, String.append_empty] at whole
    exact ⟨"", before, "", after, .inl ⟨rfl, rfl⟩, rfl, by rw [whole, String.append_empty],
      beforeFree, afterFree⟩
  · obtain ⟨head, parts, headFree⟩ := eq_append_of_afterConjunction (trim conditions).toList
    generalize (afterWord? "AND ".toList (trim conditions).toList <|>
      afterWord? "OR ".toList (trim conditions).toList).getD (trim conditions).toList = body
      at parts ⊢
    -- the conjunction and the blanks behind it go together with the blanks before it
    refine ⟨"WHERE ", before ++ String.ofList (head ++ body.takeWhile isBlank),
      String.ofList (dropBlanks body), after, .inr rfl, rfl, ?_, ?_, afterFree⟩
    · have text : trim conditions =
          String.ofList (head ++ body.takeWhile isBlank) ++ String.ofList (dropBlanks body) := by
        rw [← String.ofList_append, List.append_assoc, dropBlanks, List.takeWhile_append_dropWhile,
          ← parts, String.ofList_toList]
      calc
        conditions = before ++ trim conditions ++ after := whole
        _ = _ := by rw [text]; simp only [String.append_assoc]
    · rw [Free, marks_append, beforeFree, marks_ofList, List.filter_append, headFree,
        filter_of_all_blank List.all_takeWhile]
      rfl

/-- The WHERE part in the same way, with its blank. -/
theorem wherePart_eq (u : UpdateStatement) :
    ∃ lead dropped kept trailing : String, (lead = "" ∧ kept = "" ∨ lead = " WHERE ") ∧
      u.wherePart = lead ++ kept ∧ Fragment.sql u.filter = dropped ++ kept ++ trailing ∧
      Free dropped ∧ Free trailing := by
  obtain ⟨lead, dropped, kept, trailing, cases', clause, whole, droppedFree, trailingFree⟩ :=
    whereClause_eq (Fragment.sql u.filter)
  rw [wherePart, filterClause, clause]
  rcases cases' with ⟨rfl, rfl⟩ | rfl
  · exact ⟨"", dropped, "", trailing, .inl ⟨rfl, rfl⟩, rfl, whole, droppedFree, trailingFree⟩
  · refine ⟨" WHERE ", dropped, kept, trailing, .inr rfl, ?_, whole, droppedFree, trailingFree⟩
    rw [if_neg (by simp), ← String.append_assoc]
    rfl

end UpdateStatement

namespace Fragment

variable {f : Fragment} {dropped kept trailing : String}

/-- Text without placeholders can be cut off at both ends. -/
theorem fill_cut (lit : Value → String) (fits : f.Fits)
    (whole : f.sql = dropped ++ kept ++ trailing) (droppedFree : Free dropped)
    (trailingFree : Free trailing) :
    ∃ text, f.filled lit = dropped ++ text ++ trailing ∧ fill lit kept f.values = (text, []) := by
  -- the ends use no values, so all of them go to the middle
  have all : fill lit f.sql f.values = (f.filled lit, []) := fill_all fits
  rw [whole, fill_append, fill_append, fill_of_free droppedFree, fill_of_free trailingFree] at all
  obtain ⟨text, rest⟩ := Prod.mk.inj all
  exact ⟨_, text.symm, Prod.ext rfl rest⟩

theorem count_cut (fits : f.Fits) (whole : f.sql = dropped ++ kept ++ trailing)
    (droppedFree : Free dropped) (trailingFree : Free trailing) : count kept = f.values.length := by
  rw [← count_sql fits, whole, count, count, marks_append, marks_append, droppedFree, trailingFree,
    List.nil_append, List.append_nil]

end Fragment

namespace Update

/-- The scope of an update declares no aliases. -/
def scope (catalog : Catalog) (e : Entity) : Scope := ⟨catalog, e, .empty⟩

/-- The values of the assignments, in the order of the entries. -/
def assigned (u : Update) (s : Scope) : List Value :=
  u.assignments.flatMap (Assignment.bindings s)

/-- The values of the conditions that are left after pruning, in document order. -/
def compared (u : Update) (f : Filter) : List Value :=
  f.valuesOf (f.scope.pruned u.conditions)

/-- Placeholders stand in scripts, one for each bound value, or alone in another key of an
assignment. -/
structure Fits (catalog : Catalog) (u : Update) : Prop where
  names : catalog.Lacks isMark
  assignments : ∀ c ∈ u.assignments, Assignment.EntryFits c
  conditions : Condition.Fit u.conditions

variable {u : Update} {catalog : Catalog} {d : Dialect} {s : UpdateStatement}

/-- A compiled update, part by part. -/
theorem compile_eq_ok (ok : (u.compile catalog d).outcome = .ok s) :
    ∃ e entries filter, catalog.lookup? u.entity = some e ∧
      List.Forall₂ (Assignment.Gives (scope catalog e)) u.assignments entries ∧
      Filter.compile ⟨scope catalog e, d⟩ .fragment ((scope catalog e).pruned u.conditions) =
        .ok filter ∧
      s = ⟨e.table, entries.filterMap id, filter⟩ := by
  rw [compile] at ok
  cases found : catalog.lookup? u.entity with
  | none => rw [found] at ok; cases ok
  | some e =>
    simp only [found, Attempt.outcome_bind, Attempt.outcome_lift] at ok
    obtain ⟨entries, ofEntries, ok⟩ := Outcome.bind_eq_ok.mp ok
    obtain ⟨filter, ofFilter, ok⟩ := Outcome.bind_eq_ok.mp ok
    refine ⟨e, entries, filter, rfl, ?_, ofFilter, ?_⟩
    · exact (Outcome.mapM_eq_ok_iff.mp ofEntries).imp fun _ _ => Assignment.gives_of_ofEntry
    -- no assignments are an error; no WHERE clause is a warning, with the same statement
    · split at ok
      · cases ok
      · split at ok
        · exact (Except.ok.inj ok).symm
        · exact (Except.ok.inj ok).symm

theorem Fits.scope_lacks {e : Entity} (fits : u.Fits catalog)
    (found : catalog.lookup? u.entity = some e) : (scope catalog e).Lacks isMark where
  catalog := fits.names
  entity := fits.names e (Catalog.mem_of_lookup? found)

/-- What the entries give binds the values of the entries in order. -/
theorem assigned_eq {scope : Scope} {entries : List (Option Fragment)}
    (gives : List.Forall₂ (Assignment.Gives scope) u.assignments entries) :
    (entries.filterMap id).flatMap Fragment.values = u.assigned scope := by
  rw [assigned]
  -- along the entries; one that gives nothing has no bindings and is left out on the left
  generalize u.assignments = cs at gives
  induction gives with
  | nil => rfl
  | @cons c b cs bs first _ ih =>
    rw [List.flatMap_cons, ← ih, first.bindings]
    cases b with
    | none => rfl
    | some g => simp

/-- What entries that fit give has a placeholder for each value. -/
theorem Fits.entries {scope : Scope} {entries : List (Option Fragment)} (fits : u.Fits catalog)
    (lacks : scope.Lacks isMark)
    (gives : List.Forall₂ (Assignment.Gives scope) u.assignments entries) :
    ∀ g ∈ entries.filterMap id, g.Fits := by
  have each := fits.assignments
  generalize u.assignments = cs at gives each
  intro g member
  induction gives with
  | nil => cases member
  | @cons c b cs bs first _ ih =>
    rw [List.forall_mem_cons] at each
    rw [List.filterMap_cons] at member
    cases b with
    | none => exact ih each.2 member
    | some h =>
      rcases List.mem_cons.mp member with rfl | member
      · exact first.fits lacks each.1 _ rfl
      · exact ih each.2 member

/-- What the entries give, with the values in place, is the spelled entries. -/
theorem spelled_eq {scope : Scope} {entries : List (Option Fragment)} (lit : Value → String)
    (gives : List.Forall₂ (Assignment.Gives scope) u.assignments entries) :
    u.assignments.mapM (Assignment.spelled lit scope) =
      .ok (entries.map (Option.map (Fragment.filled lit))) := by
  rw [Outcome.mapM_eq_ok_iff, List.forall₂_map_right_iff]
  exact gives.imp fun c b given => given.spelled lit

/-- The part with the assignments, filled with their values. -/
theorem fill_setPart (lit : Value → String) {table : String} {gs : List Fragment}
    {filter : Fragment} (free : Free table) (fits : ∀ g ∈ gs, g.Fits) :
    fill lit (UpdateStatement.setPart ⟨table, gs, filter⟩) (gs.flatMap Fragment.values) =
      ("UPDATE " ++ table ++ " SET " ++ joinWith ", " (gs.map (Fragment.filled lit)), []) := by
  have head : Free ("UPDATE " ++ table ++ " SET ") := by
    rw [Free, marks_append, marks_append, free]
    rfl
  have row : (Fragment.joined ", " gs).Fits := Fragment.fits_joined rfl fits
  rw [UpdateStatement.setPart, fill_append, fill_of_free head, ← Fragment.values_joined ", ",
    Fragment.fill_all row, Fragment.filled_joined]

theorem count_setPart {table : String} {gs : List Fragment} {filter : Fragment}
    (free : Free table) (fits : ∀ g ∈ gs, g.Fits) :
    count (UpdateStatement.setPart ⟨table, gs, filter⟩) = (gs.flatMap Fragment.values).length := by
  have row : (Fragment.joined ", " gs).Fits := Fragment.fits_joined rfl fits
  rw [← Fragment.values_joined ", ", ← Fragment.count_sql row, UpdateStatement.setPart, count,
    marks_append, marks_append, marks_append, free, count]
  rfl

/-- Take an update with placeholders in scripts only, one for each bound value, or alone in another
key of an assignment. Then the compiled statement has as many placeholders as values. Those before
WHERE belong to the assignments and stand for the values of the entries in order: filled, that part
is the spelled entries in a row. Those of the WHERE part stand for the values of the pruned
conditions in document order: filled, that part is the spelled conditions, up to text without
placeholders that is dropped around them. -/
theorem fill_parts (fits : u.Fits catalog) (ok : (u.compile catalog d).outcome = .ok s) :
    ∃ e, catalog.lookup? u.entity = some e ∧
      s.sql = s.setPart ++ s.wherePart ∧ count s.sql = s.values.length ∧
      s.values = u.assigned (scope catalog e) ++ u.compared ⟨scope catalog e, d⟩ ∧
      count s.setPart = (u.assigned (scope catalog e)).length ∧
      count s.wherePart = (u.compared ⟨scope catalog e, d⟩).length ∧
      (∀ lit, ∃ entries,
        u.assignments.mapM (Assignment.spelled lit (scope catalog e)) = .ok entries ∧
        fill lit s.setPart (u.assigned (scope catalog e)) =
          ("UPDATE " ++ e.table ++ " SET " ++ joinWith ", " (entries.filterMap id), [])) ∧
      ∃ lead dropped kept trailing, (lead = "" ∧ kept = "" ∨ lead = " WHERE ") ∧
        s.wherePart = lead ++ kept ∧ Free dropped ∧ Free trailing ∧
        ∀ lit, ∃ text, Filter.spelled ⟨scope catalog e, d⟩ lit .fragment
            ((scope catalog e).pruned u.conditions) = .ok (dropped ++ text ++ trailing) ∧
          fill lit s.wherePart (u.compared ⟨scope catalog e, d⟩) = (lead ++ text, []) := by
  obtain ⟨e, entries, filter, found, gives, ofFilter, rfl⟩ := compile_eq_ok ok
  -- what the parts of the statement hold
  have lacks := fits.scope_lacks found
  have entriesFit := fits.entries lacks gives
  have filterFits : filter.Fits :=
    Filter.fits_compile lacks (fits.conditions.pruned _) ofFilter
  -- what they bind, read off the update
  have assignedValues := assigned_eq gives
  have comparedValues : filter.values = u.compared ⟨scope catalog e, d⟩ :=
    Filter.values_compile ofFilter
  obtain ⟨lead, dropped, kept, trailing, leads, part, whole, droppedFree, trailingFree⟩ :=
    UpdateStatement.wherePart_eq ⟨e.table, entries.filterMap id, filter⟩
  have leadFree : Free lead := by
    rcases leads with ⟨rfl, -⟩ | rfl
    · rfl
    · rfl
  have setCount : count (UpdateStatement.setPart ⟨e.table, entries.filterMap id, filter⟩) =
      (u.assigned (scope catalog e)).length := by
    rw [← assignedValues]
    exact count_setPart lacks.entity.table entriesFit
  have whereCount : count (UpdateStatement.wherePart ⟨e.table, entries.filterMap id, filter⟩) =
      (u.compared ⟨scope catalog e, d⟩).length := by
    rw [part, ← comparedValues, count, marks_append, leadFree, List.nil_append]
    exact Fragment.count_cut filterFits whole droppedFree trailingFree
  have values : UpdateStatement.values ⟨e.table, entries.filterMap id, filter⟩ =
      u.assigned (scope catalog e) ++ u.compared ⟨scope catalog e, d⟩ := by
    rw [UpdateStatement.values, assignedValues, comparedValues]
  refine ⟨e, found, rfl, ?_, values, setCount, whereCount, fun lit => ?_,
    lead, dropped, kept, trailing, leads, part, droppedFree, trailingFree, fun lit => ?_⟩
  · rw [values, List.length_append, ← setCount, ← whereCount, UpdateStatement.sql_eq, count,
      marks_append, List.length_append, count, count]
  · refine ⟨_, spelled_eq lit gives, ?_⟩
    have row : (entries.map (Option.map (Fragment.filled lit))).filterMap id =
        (entries.filterMap id).map (Fragment.filled lit) := by
      rw [List.filterMap_map, List.map_filterMap]
      rfl
    rw [← assignedValues, row]
    exact fill_setPart lit lacks.entity.table entriesFit
  · obtain ⟨text, spelled, filled⟩ :=
      Fragment.fill_cut lit filterFits whole droppedFree trailingFree
    refine ⟨text, ?_, ?_⟩
    · rw [Filter.spelled_eq, ofFilter, ← spelled]
      rfl
    · rw [part, ← comparedValues, fill_append, fill_of_free leadFree, filled]

end Update

namespace Ledger

/-- An entity with an enumeration, a moment and an amount. -/
def account : Entity where
  name := "Account"
  table := "t_account"
  properties := .ofList [("id", ⟨"id", .integer, false, false⟩),
    ("state", ⟨"account_state", .string, false, false⟩),
    ("closedAt", ⟨"closed_at", .datetime, false, false⟩),
    ("amount", ⟨"amount", .float, false, false⟩)]

def catalog : Catalog := ⟨[account]⟩

/-- An update with each kind of entry, two of them elided, and a condition that holds its column's
default. -/
def closing : Update where
  entity := "Account"
  assignments := [
    .withValue .eq "state" (.constant "CLOSED"),
    .withValue .eq "amount" (.int 0),
    .withValue .eq "closedAt" (.int 86400000),
    .withValue .eq "amount = amount - ?" (.int 5),
    .withValue .eq "state" .null,
    .script "state = CONCAT(?, ?)" [.text "was?", .int 3]]
  conditions := [
    .withValue .eq "amount" (.int 0),
    .withValue .eq "id" (.int 7),
    .oneOf "state" [.text "OPEN", .null, .int 2]]

theorem fits_closing : closing.Fits catalog where
  names := by
    intro e member
    rw [List.mem_singleton.mp member]
    exact ⟨rfl, rfl, by decide⟩
  assignments := by
    simp only [closing, List.forall_mem_cons]
    exact ⟨Nat.zero_le 1, Nat.zero_le 1, Nat.zero_le 1, Nat.le_refl 1, Nat.zero_le 1, .inr rfl,
      by simp⟩
  conditions := by
    have leaves : Condition.leaves closing.conditions = closing.conditions := by rfl
    rw [Condition.Fit, leaves]
    simp only [closing, List.forall_mem_cons]
    refine ⟨⟨rfl, ?_⟩, ⟨rfl, ?_⟩, rfl, by simp⟩
    all_goals
      rintro v e given inlined
      cases given
      cases inlined

end Ledger

/-- The parts of an update that closes an account. -/
theorem Update.fill_parts_closing :
    ∃ s, (Ledger.closing.compile Ledger.catalog .mysql).outcome = .ok s ∧
      count s.sql = s.values.length ∧ count s.setPart = 5 ∧ count s.wherePart = 2 ∧
      fill (fun _ => "#") s.setPart
          (Ledger.closing.assigned (scope Ledger.catalog Ledger.account)) =
        ("UPDATE t_account SET account_state = #, closed_at = #, amount = amount - #, " ++
          "account_state = CONCAT(#, #)", []) := by
  obtain ⟨s, ok⟩ := Outcome.exists_of_isOk
    (x := (Ledger.closing.compile Ledger.catalog .mysql).outcome) (by decide +kernel)
  obtain ⟨e, found, -, whole, -, ofSet, ofWhere, filled, -⟩ := fill_parts Ledger.fits_closing ok
  obtain rfl : Ledger.account = e := Option.some.inj found
  obtain ⟨entries, spelled, filled⟩ := filled fun _ => "#"
  refine ⟨s, ok, whole, ?_, ?_, ?_⟩
  · rw [ofSet]
    decide +kernel
  · rw [ofWhere]
    decide +kernel
  · have text : entries = ((Ledger.closing.assignments.mapM (Assignment.spelled (fun _ => "#")
        (scope Ledger.catalog Ledger.account))).toOption).getD [] := by
      rw [spelled]
      rfl
    rw [filled, text]
    exact Prod.ext (by decide +kernel) rfl

end BoundQuery
