import BoundQuery.Proofs.Positions
import BoundQuery.Proofs.ResolvedText
import BoundQuery.Proofs.UpdateAlignment

/-!
# WHERE clauses of updates and reads

A read renders its conditions behind WHERE. An update renders them as a fragment and then puts WHERE
in the place of the leading conjunction, which it finds in the text. The two give the same clause
where the text of the conditions has no outer blanks, and where it does not start like a conjunction
of its own.

## Main definitions

* `Text.opensWithConjunction`, texts that start like a conjunction
* `Condition.ExpressionsGiven`, conditions without blank expressions

## Main results

* `Filter.isTrimmed_terms` — the bodies of conditions have no outer blanks
* `UpdateStatement.whereClause_leading` — WHERE takes the place of the conjunction and of nothing else
* `Update.compile_eq_read` — updates have the WHERE clauses of reads
-/

namespace BoundQuery

open Text

/-- Does the text start with a conjunction and a blank, in any case? -/
def Text.opensWithConjunction (s : String) : Bool :=
  "AND ".toList.isPrefixOf (asciiUpper s) || "OR ".toList.isPrefixOf (asciiUpper s)

/-- No operand is an expression without anything in it. -/
def Condition.ExpressionsGiven (cs : List Condition) : Prop :=
  ∀ c ∈ Condition.leaves cs, ∀ v e, c.operand = some (.value v) → Filter.inline? v = some e →
    isBlankText e = false

theorem Condition.ExpressionsGiven.pruned {cs : List Condition} (given : ExpressionsGiven cs)
    (s : Scope) : ExpressionsGiven (s.pruned cs) :=
  fun c member => given c (Scope.mem_leaves_pruned member)

/-! ### Bodies without outer blanks -/

namespace Filter

variable {f : Filter} {c : Condition} {cs : List Condition} {ts : List Term} {b : Fragment}

/-- What follows the key of a leaf ends without a blank. -/
theorem EmitsRest.ends {operand : Operand} (names : f.scope.Trimmed)
    (expressions : ∀ v e, operand = .value v → inline? v = some e → isBlankText e = false)
    (emits : EmitsRest f c operand b) : ∃ head last, b.sql = head ++ last ∧ isTrimmed last := by
  cases emits with
  | members shape are written =>
    obtain ⟨pieces, -, rfl⟩ := Dialect.memberList_eq_ok written
    -- the closing parenthesis ends the list
    refine ⟨c.predicate.sql ++ (" " ++ ("(" ++
      Fragment.sql (Fragment.joined ", " (pieces.map fun p => [p])))), ")", ?_, rfl⟩
    simp [Piece.sql, String.append_assoc]
  | range shape =>
    refine ⟨"BETWEEN " ++ "?" ++ " AND ", "?", ?_, rfl⟩
    simp [Piece.sql]
  | expression shape inlined resolved =>
    refine ⟨c.predicate.sql ++ " ", _, ?_, names.script (expressions _ _ rfl inlined) resolved⟩
    simp [Piece.sql, String.append_assoc]
  | value shape isBound =>
    refine ⟨c.predicate.sql ++ " ", "?", ?_, rfl⟩
    simp [Piece.sql, String.append_assoc]

/-- The body of a leaf has no outer blanks. -/
theorem Emits.trimmed (names : f.scope.Trimmed)
    (expressions : ∀ v e, c.operand = some (.value v) → inline? v = some e → isBlankText e = false)
    (emits : f.Emits c b) : isTrimmed b.sql := by
  cases emits with
  | script shape resolved given =>
    have text := names.script_of_ne_empty given resolved
    simpa [Piece.sql] using text
  | nullCheck shape given resolved =>
    have check : isTrimmed c.predicate.sql := by
      generalize c.predicate = p at shape ⊢
      cases p with
      | isNull | isNotNull => rfl
      | _ => cases shape
    have text := isTrimmed_append (names.script given resolved) " " check
    simpa [Piece.sql, String.append_assoc] using text
  | @comparison operand key rest shape given present some resolved follows =>
    have starts : isTrimmed key := names.script some resolved
    obtain ⟨head, last, parts, ends⟩ := follows.ends names fun v e isValue =>
      expressions v e (by rw [given, isValue])
    have text := isTrimmed_append starts (" " ++ head) ends
    simpa [Piece.sql, parts, String.append_assoc] using text

theorem isTrimmed_enclosed (ok : enclosed ts = some b) : isTrimmed b.sql := by
  cases ts with
  | nil => cases ok
  | cons t ts =>
    have text := isTrimmed_append (s := "(") (t := ")") rfl
      (Fragment.sql (Position.groupFirst.lay (t :: ts))) rfl
    rw [← Option.some.inj ok]
    simpa [Piece.sql, String.append_assoc] using text

/-- The bodies of conditions have no outer blanks. -/
theorem isTrimmed_terms (names : f.scope.Trimmed) (expressions : Condition.ExpressionsGiven cs)
    (ok : f.terms cs = .ok ts) : ∀ t ∈ ts, isTrimmed (Fragment.sql t.body) := by
  induction cs using Condition.forest_induction generalizing ts with
  | nil =>
    rw [terms_nil] at ok
    rw [← Except.ok.inj ok]
    simp
  | leaf c cs isLeaf ih =>
    obtain ⟨b, us, body, rest, rfl⟩ := (terms_leaf isLeaf).mp ok
    rw [Condition.ExpressionsGiven, Condition.leaves_leaf isLeaf, List.forall_mem_cons]
      at expressions
    have others := ih expressions.2 rest
    cases b with
    | none => exact others
    | some b =>
      have first := (leafBody_eq_some_iff.mp body).trimmed names expressions.1
      exact List.forall_mem_cons.mpr ⟨first, others⟩
  | group c cs isGroup inner ih =>
    obtain ⟨children, us, -, rest, rfl⟩ := (terms_group isGroup).mp ok
    rw [Condition.ExpressionsGiven, Condition.leaves_group isGroup, List.forall_mem_append]
      at expressions
    have others := ih expressions.2 rest
    cases closed : enclosed children with
    | none => exact others
    | some b => exact List.forall_mem_cons.mpr ⟨isTrimmed_enclosed closed, others⟩

/-- Terms without outer blanks in a row have none. -/
theorem isTrimmed_lay {t : Term} (each : ∀ u ∈ t :: ts, isTrimmed (Fragment.sql u.body)) :
    isTrimmed (Fragment.sql (Position.groupFirst.lay (t :: ts))) := by
  rw [List.forall_mem_cons] at each
  obtain ⟨first, others⟩ := each
  rw [Position.lay, Position.lead, List.nil_append, Fragment.sql_append]
  -- each further term gives a new end to what stands before it
  generalize Fragment.sql t.body = front at first
  induction ts generalizing front with
  | nil => simpa using first
  | cons u us ih =>
    rw [List.forall_mem_cons] at others
    have next := isTrimmed_append first (" " ++ Conjunction.leading u.conjunction) others.1
    have all := ih others.2 _ next
    simpa [Piece.sql, sql_joining, String.append_assoc] using all

end Filter

/-! ### WHERE for a conjunction -/

namespace UpdateStatement

variable {word text : List Char} {s : String}

theorem afterWord?_of_prefix (starts : word <+: text.map Char.toUpper) :
    afterWord? word text = some (text.drop word.length) := by
  rw [afterWord?, List.map_take, if_pos (List.prefix_iff_eq_take.mp starts).symm]

theorem afterWord?_of_not_prefix (other : ¬ word <+: text.map Char.toUpper) :
    afterWord? word text = none := by
  rw [afterWord?, List.map_take, if_neg fun same => other (List.prefix_iff_eq_take.mpr same.symm)]

/-- WHERE takes the place of the conjunction of the first condition. Without one it stands in front
of the conditions, unless their text starts like a conjunction. -/
theorem whereClause_leading {c : Option Conjunction} (trimmed : isTrimmed s)
    (leads : c.isSome ∨ opensWithConjunction s = false) :
    whereClause (Conjunction.leading c ++ s) = "WHERE " ++ s := by
  have starts : dropBlanks s.toList = s.toList :=
    dropBlanks_of_startsInked (isTrimmed_iff.mp trimmed).1
  have given : s.toList ≠ [] := by
    simpa using ne_empty_of_isTrimmed trimmed
  rcases c with _ | _ | _
  · -- nothing is found in front, so nothing is taken away
    have own : opensWithConjunction s = false := by simpa using leads
    rw [opensWithConjunction, Bool.or_eq_false_iff] at own
    have noAnd : afterWord? "AND ".toList s.toList = none :=
      afterWord?_of_not_prefix fun starts => by
        rw [← List.isPrefixOf_iff_prefix, ← asciiUpper, own.1] at starts
        cases starts
    have noOr : afterWord? "OR ".toList s.toList = none :=
      afterWord?_of_not_prefix fun starts => by
        rw [← List.isPrefixOf_iff_prefix, ← asciiUpper, own.2] at starts
        cases starts
    have whole : Conjunction.leading none ++ s = s := String.empty_append
    rw [whereClause, whole, trim_of_isTrimmed trimmed, noAnd, noOr]
    simp [given, starts]
  · have whole : trim (Conjunction.leading (some .and) ++ s) = "AND " ++ s :=
      trim_of_isTrimmed (isTrimmed_append (s := "AND") rfl " " trimmed)
    have found : afterWord? "AND ".toList ("AND " ++ s).toList = some s.toList := by
      rw [String.toList_append, afterWord?_of_prefix ⟨s.toList.map Char.toUpper, by simp⟩,
        List.drop_left]
    rw [whereClause, whole, found]
    simp [starts]
  · have whole : trim (Conjunction.leading (some .or) ++ s) = "OR " ++ s :=
      trim_of_isTrimmed (isTrimmed_append (s := "OR") rfl " " trimmed)
    have other : afterWord? "AND ".toList ("OR " ++ s).toList = none := by
      refine afterWord?_of_not_prefix fun starts => ?_
      rw [String.toList_append] at starts
      simp at starts
    have found : afterWord? "OR ".toList ("OR " ++ s).toList = some s.toList := by
      rw [String.toList_append, afterWord?_of_prefix ⟨s.toList.map Char.toUpper, by simp⟩,
        List.drop_left]
    rw [whereClause, whole, other, found]
    simp [starts]

end UpdateStatement

/-! ### Updates -/

namespace Filter

variable {f : Filter} {cs : List Condition} {g : Fragment}

/-- Conditions fail alike at all positions. -/
theorem compile_eq_error {error : CompileError} {p : Position} (failed : f.compile p cs = .error error)
    (q : Position) : f.compile q cs = .error error := by
  rw [compile, render] at failed ⊢
  cases rendered : f.terms cs with
  | error h =>
    rw [rendered] at failed
    exact failed
  | ok ts =>
    rw [rendered] at failed
    cases failed

/-- Conditions that render as a fragment render behind WHERE, to the clause that WHERE in the place
of the conjunction gives, with the same values. -/
theorem whereClause_compile (names : f.scope.Trimmed) (expressions : Condition.ExpressionsGiven cs)
    (leads : ∀ before c after t, cs = before ++ c :: after → (∀ d ∈ before, ¬ f.Emitting d) →
      f.Emitting c → f.compile .groupFirst cs = .ok t →
        c.conjunction.isSome ∨ opensWithConjunction t.sql = false)
    (ok : f.compile .fragment cs = .ok g) :
    ∃ h, f.compile .whereFirst cs = .ok h ∧ UpdateStatement.whereClause g.sql = h.sql ∧
      g.values = h.values := by
  obtain ⟨ts, rendered, rfl⟩ := compile_eq_ok.mp ok
  refine ⟨_, compile_eq_ok.mpr ⟨ts, rendered, rfl⟩, ?_, by rw [values_lay, values_lay]⟩
  cases ts with
  | nil => rfl
  | cons t ts =>
    obtain ⟨before, c, after, parts, silent, emits, -, conjunction⟩ := terms_eq_cons rendered
    have leading := leads before c after _ parts silent emits
      (compile_eq_ok.mpr ⟨t :: ts, rendered, rfl⟩)
    have trimmed := isTrimmed_lay (isTrimmed_terms names expressions rendered)
    have lead : Position.fragment.lead t.conjunction = Position.joining c.conjunction := by
      rw [conjunction]
      rfl
    rw [sql_lay .fragment, sql_lay .whereFirst, lead, sql_joining]
    exact UpdateStatement.whereClause_leading trimmed leading

end Filter

namespace Update

variable {u : Update} {catalog : Catalog} {e : Entity} {entries : List (Option Fragment)}

/-- The outcome of an update whose entries render depends on its conditions and on whether anything
is assigned. -/
theorem outcome_compile (d : Dialect) (found : catalog.lookup? u.entity = some e)
    (rendered : u.assignments.mapM (Assignment.ofEntry (scope catalog e)) = .ok entries) :
    (u.compile catalog d).outcome =
      (Filter.compile ⟨scope catalog e, d⟩ .fragment ((scope catalog e).pruned u.conditions) >>=
        fun filter =>
          if entries.filterMap id = [] then
            .error (.emptyUpdate (UpdateStatement.sql ⟨e.table, entries.filterMap id, filter⟩))
          else .ok ⟨e.table, entries.filterMap id, filter⟩) := by
  rw [scope] at rendered ⊢
  rw [compile]
  simp only [found, rendered, Attempt.outcome_bind, Attempt.outcome_lift, Outcome.ok_bind]
  refine congrArg _ (funext fun filter => ?_)
  generalize entries.filterMap id = assigned
  cases assigned with
  | nil => rfl
  | cons g gs =>
    rw [if_neg (List.cons_ne_nil g gs), if_neg (by simp)]
    -- a statement without a WHERE clause is warned about, but is the same statement
    split
    · rfl
    · rfl

/-- Take a catalog with trimmed tables and columns and an update whose entries render. Let none of
its pruned conditions have a blank expression, and let the first of them that gives text have a
conjunction, or their text not start like one. Then the update fails with the error that the
conditions have behind WHERE; or they render there, and their text is the WHERE clause of the update,
absent when it is empty, with the same values. -/
theorem compile_eq_read (d : Dialect) (names : catalog.Trimmed)
    (found : catalog.lookup? u.entity = some e)
    (rendered : u.assignments.mapM (Assignment.ofEntry (scope catalog e)) = .ok entries)
    (expressions : Condition.ExpressionsGiven ((scope catalog e).pruned u.conditions))
    (leads : ∀ before c after t, (scope catalog e).pruned u.conditions = before ++ c :: after →
      (∀ b ∈ before, ¬ Filter.Emitting ⟨scope catalog e, d⟩ b) →
      Filter.Emitting ⟨scope catalog e, d⟩ c →
      Filter.compile ⟨scope catalog e, d⟩ .groupFirst ((scope catalog e).pruned u.conditions) =
          .ok t →
        c.conjunction.isSome ∨ opensWithConjunction t.sql = false) :
    (∃ error, Filter.compile ⟨scope catalog e, d⟩ .whereFirst
          ((scope catalog e).pruned u.conditions) = .error error ∧
        (u.compile catalog d).outcome = .error error) ∨
      ∃ clause s, Filter.compile ⟨scope catalog e, d⟩ .whereFirst
          ((scope catalog e).pruned u.conditions) = .ok clause ∧
        s.filterClause = clause.sql ∧
        s.sql = "UPDATE " ++ e.table ++ " SET " ++
          Fragment.sql (Fragment.joined ", " (entries.filterMap id)) ++
          (if clause.sql = "" then "" else " " ++ clause.sql) ∧
        s.values = (entries.filterMap id).flatMap Fragment.values ++ clause.values ∧
        (u.compile catalog d).outcome =
          if entries.filterMap id = [] then .error (.emptyUpdate s.sql) else .ok s := by
  have scopeTrimmed : (scope catalog e).Trimmed := ⟨names, names e (Catalog.mem_of_lookup? found)⟩
  rw [outcome_compile d found rendered]
  cases ofFilter : Filter.compile ⟨scope catalog e, d⟩ .fragment
      ((scope catalog e).pruned u.conditions) with
  | error error => exact .inl ⟨error, Filter.compile_eq_error ofFilter .whereFirst, rfl⟩
  | ok filter =>
    obtain ⟨clause, ofClause, text, values⟩ :=
      Filter.whereClause_compile scopeTrimmed expressions leads ofFilter
    refine .inr ⟨clause, ⟨e.table, entries.filterMap id, filter⟩, ofClause, text, ?_, ?_, rfl⟩
    · rw [UpdateStatement.sql, UpdateStatement.filterClause, text]
      simp
    · rw [UpdateStatement.values, values]

end Update

namespace Ledger

theorem catalog_trimmed : catalog.Trimmed := by
  intro e member
  rw [List.mem_singleton.mp member]
  exact ⟨rfl, by decide⟩

/-- An update whose first condition holds its column's default and whose next one has no
conjunction, but an expression with blanks around it. -/
def reopening : Update where
  entity := "Account"
  assignments := [.withValue .eq "state" (.constant "OPEN")]
  conditions := [
    .withValue .eq "amount" (.int 0),
    (Condition.withValue .lt "closedAt" (.text "# NOW() #")).joinedBy none,
    (Condition.group [.withValue .gt "id" (.int 7), .isNull "closedAt"]).joinedBy (some .or)]

theorem expressionsGiven_reopening : Condition.ExpressionsGiven reopening.conditions := by
  have leaves : Condition.leaves reopening.conditions = [
      .withValue .eq "amount" (.int 0),
      (Condition.withValue .lt "closedAt" (.text "# NOW() #")).joinedBy none,
      .withValue .gt "id" (.int 7), .isNull "closedAt"] := by rfl
  rw [Condition.ExpressionsGiven, leaves]
  simp only [List.forall_mem_cons]
  refine ⟨?_, ?_, ?_, ?_, by simp⟩
  all_goals
    rintro v e given inlined
    cases given
    cases inlined
  rfl

/-- An update whose first condition is a script of one word that reads like a conjunction. -/
def bareWord : Update where
  entity := "Account"
  assignments := [.withValue .eq "state" (.constant "OPEN")]
  conditions := [(Condition.script "AND" []).joinedBy none, .withValue .eq "id" (.int 7)]

theorem expressionsGiven_bareWord : Condition.ExpressionsGiven bareWord.conditions := by
  have leaves : Condition.leaves bareWord.conditions = bareWord.conditions := by rfl
  rw [Condition.ExpressionsGiven, leaves]
  simp only [bareWord, List.forall_mem_cons]
  refine ⟨?_, ?_, by simp⟩
  all_goals
    rintro v e given inlined
    cases given
  cases inlined

end Ledger

/-- The WHERE clause of an update that reopens accounts. -/
theorem Update.compile_eq_read_reopening :
    ∃ clause s, Filter.compile ⟨scope Ledger.catalog Ledger.account, .mysql⟩ .whereFirst
          ((scope Ledger.catalog Ledger.account).pruned Ledger.reopening.conditions) = .ok clause ∧
      (Ledger.reopening.compile Ledger.catalog .mysql).outcome = .ok s ∧
      s.filterClause = clause.sql ∧
      clause.sql = "WHERE closed_at < NOW() OR (id > ? AND closed_at IS NULL)" := by
  obtain ⟨entries, rendered⟩ := Outcome.exists_of_isOk
    (x := Ledger.reopening.assignments.mapM
      (Assignment.ofEntry (scope Ledger.catalog Ledger.account))) (by decide +kernel)
  obtain ⟨t, ok⟩ := Outcome.exists_of_isOk
    (x := (Ledger.reopening.compile Ledger.catalog .mysql).outcome) (by decide +kernel)
  have own : (Filter.compile ⟨scope Ledger.catalog Ledger.account, .mysql⟩ .groupFirst
      ((scope Ledger.catalog Ledger.account).pruned Ledger.reopening.conditions)).toOption.all
        fun t => !opensWithConjunction t.sql := by decide +kernel
  have text : (Filter.compile ⟨scope Ledger.catalog Ledger.account, .mysql⟩ .whereFirst
      ((scope Ledger.catalog Ledger.account).pruned Ledger.reopening.conditions)).toOption.all
        fun t => t.sql == "WHERE closed_at < NOW() OR (id > ? AND closed_at IS NULL)" := by
    decide +kernel
  rcases compile_eq_read .mysql Ledger.catalog_trimmed rfl rendered
    (Ledger.expressionsGiven_reopening.pruned _) (by
      intro before c after t _ _ _ rendered
      rw [rendered] at own
      exact .inr (by simpa [Except.toOption] using own)) with
    ⟨error, -, failed⟩ | ⟨clause, s, ofClause, same, -, -, outcome⟩
  · rw [ok] at failed
    cases failed
  · rw [ofClause] at text
    refine ⟨clause, s, ofClause, ?_, same, by simpa [Except.toOption] using text⟩
    rw [outcome] at ok ⊢
    split at ok
    · cases ok
    · next assigned => rw [if_neg assigned]

/-- A first condition that is the bare word of a conjunction does not start with the word and a
blank, but the text of all conditions does: an update drops the word, a read keeps it. -/
theorem Update.filterClause_bareWord :
    Ledger.catalog.Trimmed ∧
      Condition.ExpressionsGiven
        ((scope Ledger.catalog Ledger.account).pruned Ledger.bareWord.conditions) ∧
      ∃ clause s c rest b,
        (scope Ledger.catalog Ledger.account).pruned Ledger.bareWord.conditions = c :: rest ∧
        Filter.body ⟨scope Ledger.catalog Ledger.account, .mysql⟩ c = .ok (some b) ∧
        opensWithConjunction b.sql = false ∧
        Filter.compile ⟨scope Ledger.catalog Ledger.account, .mysql⟩ .whereFirst
          ((scope Ledger.catalog Ledger.account).pruned Ledger.bareWord.conditions) = .ok clause ∧
        (Ledger.bareWord.compile Ledger.catalog .mysql).outcome = .ok s ∧
        clause.sql = "WHERE AND AND id = ?" ∧ s.filterClause = "WHERE AND id = ?" := by
  exact ⟨Ledger.catalog_trimmed, Ledger.expressionsGiven_bareWord.pruned _, _, _, _, _, _, rfl, rfl,
    by decide +kernel, rfl, rfl, by decide +kernel, by decide +kernel⟩

end BoundQuery
