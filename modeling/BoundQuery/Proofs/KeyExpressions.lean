import BoundQuery.Proofs.FromClauses
import BoundQuery.Proofs.InkedText
import BoundQuery.Proofs.LegibleConditions

/-!
# One key in several clauses

The select list and GROUP BY resolve a key as a whole. ORDER BY and the left-hand sides of
conditions resolve it token by token, inside parentheses too. For a lone key the two are one. A
compound text, such as a function call, is resolved by the second only, so it is the same in all
clauses exactly when its tokens resolve to themselves.

## Main definitions

* `Scope.isLone`, the texts that are one key
* `Scope.WritesColumn`, `Scope.WritesExpression`, what stands for a key in the clauses

## Main results

* `Scope.tokenParts_eq` — a token by its three parts
* `Scope.script_of_lone` — a lone key resolves to the same text both ways
* `Scope.key_of_compound` — a compound text is no key
* `Scope.script_call` — the argument of a call is resolved token by token
* `Scope.written_in_clauses` — a key in the select list, GROUP BY, ORDER BY and conditions
-/

namespace BoundQuery

open Text Outcome

/-! ### Trimming and splitting -/

namespace Text

theorem trim_trim (s : String) : trim (trim s) = trim s := by
  by_cases empty : trim s = ""
  · rw [empty]
    rfl
  · obtain ⟨c, cs, starts⟩ :=
      List.exists_cons_of_ne_nil (show (trim s).toList ≠ [] by simpa using empty)
    have back : (trim s).toList.reverse = (dropBlanks s.toList).reverse.dropWhile isBlank := by
      rw [trim, String.toList_ofList, dropBlanksEnd, List.reverse_reverse]
    refine trim_of_isTrimmed (isTrimmed_iff.mpr ⟨?_, ?_⟩)
    · rw [starts]
      simp [startsInked, Source.not_isBlank_of_trim starts]
    · -- read from its end, the text starts where the blanks were dropped
      have stops := List.head?_dropWhile_not isBlank (dropBlanks s.toList).reverse
      rw [← back] at stops
      cases ends : (trim s).toList.reverse with
      | nil =>
        rw [List.reverse_eq_nil_iff] at ends
        rw [ends] at starts
        cases starts
      | cons d ds =>
        rw [ends] at stops
        simpa [startsInked] using stops

theorem splitChars_of_not_mem {c : Char} {cs : List Char} (other : c ∉ cs) :
    splitChars c cs = [cs] := by
  induction cs with
  | nil => rfl
  | cons d cs ih =>
    rw [List.mem_cons, not_or] at other
    rw [splitChars, if_neg (Ne.symm other.1), ih other.2]

theorem splitAll_of_not_mem {c : Char} {s : String} (other : c ∉ s.toList) : splitAll c s = [s] := by
  rw [splitAll, splitChars_of_not_mem other, List.map_singleton, String.ofList_toList]

theorem words_of_solid {s : String} (given : s ≠ "") (solid : Solid s) : words s = [s] := by
  rw [words, wordsOf_of_solid (by simpa using given) solid, List.map_singleton,
    String.ofList_toList]

end Text

namespace Scope

variable {s : Scope} {k : String}

/-! ### Tokens -/

/-- A token by its parts: what ends in its last opening parenthesis, the key, and the punctuation
behind the key. -/
theorem tokenParts_eq {outer core trailer : List Char}
    (opens : outer = [] ∨ outer.getLast? = some '(') (inner : '(' ∉ core)
    (ends : ∀ c, core.getLast? = some c → isTrailer c = false) (trailers : trailer.all isTrailer) :
    tokenParts (outer ++ core ++ trailer) = (outer, core, trailer) := by
  have closed : ∀ c ∈ trailer.reverse ++ core.reverse, (c != '(') = true := by
    intro c member
    rw [bne_iff_ne]
    rintro rfl
    rcases List.mem_append.mp member with member | member
    · exact absurd (List.all_eq_true.mp trailers _ (List.mem_reverse.mp member)) (by decide)
    · exact inner (List.mem_reverse.mp member)
  have back : (outer ++ core ++ trailer).reverse =
      (trailer.reverse ++ core.reverse) ++ outer.reverse := by
    simp
  -- read from the end, the parenthesis stops the first scan, and the key the second
  have stop : outer.reverse.takeWhile (fun c => c != '(') = [] ∧
      outer.reverse.dropWhile (fun c => c != '(') = outer.reverse := by
    rcases opens with rfl | last
    · exact ⟨rfl, rfl⟩
    · rw [← List.head?_reverse] at last
      obtain ⟨rest, chars⟩ := List.head?_eq_some_iff.mp last
      rw [chars]
      exact ⟨rfl, rfl⟩
  have trailing : ∀ c ∈ trailer.reverse, isTrailer c = true := fun c member =>
    List.all_eq_true.mp trailers c (List.mem_reverse.mp member)
  have stopCore : core.reverse.takeWhile isTrailer = [] ∧
      core.reverse.dropWhile isTrailer = core.reverse := by
    cases chars : core.reverse with
    | nil => exact ⟨rfl, rfl⟩
    | cons c cs =>
      have last : isTrailer c = false := ends c (by rw [← List.head?_reverse, chars]; rfl)
      constructor
      · rw [List.takeWhile_cons_of_neg (by simp [last])]
      · rw [List.dropWhile_cons_of_neg (by simp [last])]
  rw [tokenParts, back, List.takeWhile_append_of_pos closed, List.dropWhile_append_of_pos closed,
    stop.1, stop.2, List.append_nil, List.reverse_reverse, List.reverse_reverse,
    List.takeWhile_append_of_pos trailing, List.dropWhile_append_of_pos trailing, stopCore.1,
    stopCore.2, List.append_nil, List.reverse_reverse, List.reverse_reverse]

/-- A token resolves by its key. -/
theorem token_of_parts {outer core trailer w : String}
    (parts : tokenParts w.toList = (outer.toList, core.toList, trailer.toList)) (given : core ≠ "") :
    s.token w = (s.key core).map fun sql => outer ++ sql ++ trailer := by
  obtain ⟨c, cs, chars⟩ := List.exists_cons_of_ne_nil (show core.toList ≠ [] by simpa using given)
  have whole : String.ofList (c :: cs) = core := by rw [← chars, String.ofList_toList]
  rw [token, parts, chars]
  simp only [whole, String.ofList_toList]
  cases s.key core with
  | error e => rfl
  | ok sql => rfl

theorem script_of_solid (given : k ≠ "") (solid : Solid k) : s.script k = s.token k := by
  rw [script, words_of_solid given solid, List.mapM_cons, List.mapM_nil]
  cases s.token k with
  | error e => rfl
  | ok sql => rfl

theorem script_trim (s : Scope) (k : String) : s.script (trim k) = s.script k := by
  rw [script, script, Source.words_trim]

theorem key_trim (s : Scope) (k : String) : s.key (trim k) = s.key k := by
  rw [key, key, trim_trim]

/-! ### Lone keys -/

/-- A text that is one key: a word without an opening parenthesis and without punctuation at its
end. -/
def isLone (text : String) : Bool :=
  !(trim text).isEmpty && (trim text).toList.all (fun c => !isBlank c && c != '(') &&
    !(trim text).toList.getLast?.any isTrailer

theorem isLone_iff : isLone k ↔ trim k ≠ "" ∧ Solid (trim k) ∧ '(' ∉ (trim k).toList ∧
    ∀ c, (trim k).toList.getLast? = some c → isTrailer c = false := by
  have last : (!(trim k).toList.getLast?.any isTrailer) = true ↔
      ∀ c, (trim k).toList.getLast? = some c → isTrailer c = false := by
    cases (trim k).toList.getLast? with
    | none => simp
    | some c => simp
  have each : (trim k).toList.all (fun c => !isBlank c && c != '(') = true ↔
      Solid (trim k) ∧ '(' ∉ (trim k).toList := by
    rw [List.all_eq_true, Solid]
    constructor
    · intro plain
      constructor
      · intro c member
        have marked := plain c member
        simp only [Bool.and_eq_true, Bool.not_eq_true'] at marked
        exact marked.1
      · intro member
        exact absurd (plain _ member) (by decide)
    · rintro ⟨solid, closed⟩ c member
      rw [Bool.and_eq_true, solid c member, bne_iff_ne]
      refine ⟨rfl, ?_⟩
      rintro rfl
      exact closed member
  rw [isLone, Bool.and_eq_true, Bool.and_eq_true, last, each, Bool.not_eq_true',
    Bool.eq_false_iff, ne_eq, String.isEmpty_iff, and_assoc, and_assoc]

/-- Resolved token by token, a lone key is the key itself. -/
theorem script_of_lone (lone : isLone k) : s.script k = s.key k := by
  obtain ⟨given, solid, closed, ends⟩ := isLone_iff.mp lone
  have parts : tokenParts (trim k).toList = ("".toList, (trim k).toList, "".toList) := by
    have cut : tokenParts ([] ++ (trim k).toList ++ []) = ([], (trim k).toList, []) :=
      tokenParts_eq (.inl rfl) closed ends rfl
    rwa [List.nil_append, List.append_nil] at cut
  rw [← script_trim, script_of_solid given solid, token_of_parts parts given, key_trim]
  cases s.key k with
  | error e => rfl
  | ok sql =>
    change Except.ok ("" ++ sql ++ "") = _
    rw [String.empty_append, String.append_empty]

theorem isLone_dotted {qualifier property : String} (ofQualifier : ∀ c ∈ qualifier.toList, isBare c)
    (ofProperty : isIdentifier property) : isLone (qualifier ++ "." ++ property) := by
  have bare := isBare_of_isIdentifier ofProperty
  have given : property.toList ≠ [] := by
    intro empty
    rw [isIdentifier, empty] at ofProperty
    cases ofProperty
  have solid := solid_dotted ofQualifier ofProperty
  rw [isLone_iff, trim_of_solid solid]
  refine ⟨?_, solid, ?_, ?_⟩
  · simp
  · intro member
    simp only [String.toList_append, List.mem_append] at member
    rcases member with (member | point) | member
    · exact (isBare_iff.mp (ofQualifier _ member)).2.1 rfl
    · exact absurd point (by decide)
    · exact (isBare_iff.mp (bare _ member)).2.1 rfl
  · intro c last
    rw [String.toList_append, List.getLast?_append_of_ne_nil _ given] at last
    exact (isBare_iff.mp (bare c (List.mem_of_getLast? last))).2.2.1

theorem isLone_qualified {qualifier property : String} (ofQualifier : isIdentifier qualifier)
    (ofProperty : isIdentifier property) : isLone (qualifier ++ "." ++ property) :=
  isLone_dotted (isBare_of_isIdentifier ofQualifier) ofProperty

/-- A compound text is no qualified column, so it stays, unless it is a name as a whole. -/
theorem key_of_compound (compound : isLone k = false)
    (unnamed : s.simpleKey (trim k) = trim k) : s.key k = .ok (trim k) := by
  rw [key]
  cases cut : cutAt '.' (trim k) with
  | none => simp only [unnamed]
  | some parts =>
    obtain ⟨qualifier, property⟩ := parts
    dsimp only
    -- a qualifier and a property, both identifiers, would be a lone key together
    refine if_neg fun identifiers => ?_
    rw [Bool.and_eq_true] at identifiers
    have whole : trim k = qualifier ++ "." ++ property := eq_append_of_cutAt cut
    have lone := isLone_qualified identifiers.1 identifiers.2
    rw [← whole, isLone, trim_trim, ← isLone, compound] at lone
    cases lone

theorem solid_call {function argument : String} (ofFunction : Solid function)
    (ofArgument : Solid argument) : Solid (function ++ "(" ++ argument ++ ")") := by
  intro c member
  simp only [String.toList_append, List.mem_append] at member
  rcases member with ((member | opening) | member) | closing
  · exact ofFunction c member
  · rw [List.mem_singleton.mp opening]
    rfl
  · exact ofArgument c member
  · rw [List.mem_singleton.mp closing]
    rfl

/-- A call of a function on a lone key, resolved token by token. -/
theorem script_call {function argument : String} (solid : Solid function)
    (lone : isLone argument) (trimmed : trim argument = argument) :
    s.script (function ++ "(" ++ argument ++ ")") =
      (s.key argument).map fun sql => function ++ "(" ++ sql ++ ")" := by
  obtain ⟨given, inked, closed, ends⟩ := isLone_iff.mp lone
  rw [trimmed] at given inked closed ends
  have parts : tokenParts (function ++ "(" ++ argument ++ ")").toList =
      ((function ++ "(").toList, argument.toList, ")".toList) := by
    rw [String.toList_append, String.toList_append]
    exact tokenParts_eq (.inr (by simp)) closed ends (by decide)
  rw [script_of_solid (by simp) (solid_call solid inked), token_of_parts parts given]

/-- A call as a whole is no key. -/
theorem key_call {function argument : String} (solid : Solid function) (inked : Solid argument)
    (unnamed : s.simpleKey (function ++ "(" ++ argument ++ ")") =
      function ++ "(" ++ argument ++ ")") :
    s.key (function ++ "(" ++ argument ++ ")") = .ok (function ++ "(" ++ argument ++ ")") := by
  have trimmed := trim_of_solid (solid_call solid inked)
  have compound : isLone (function ++ "(" ++ argument ++ ")") = false := by
    rw [Bool.eq_false_iff]
    intro lone
    obtain ⟨-, -, closed, -⟩ := isLone_iff.mp lone
    rw [trimmed] at closed
    exact closed (by simp)
  have whole := key_of_compound compound (by rw [trimmed, unnamed])
  rwa [trimmed] at whole

/-! ### Clauses -/

open Projection Criteria

/-- The text stands for the key in the select list, as a distinct key or another, and behind
GROUP BY. -/
structure WritesColumn (s : Scope) (k text : String) : Prop where
  selected : ∀ settings counting p projection,
    ofProjected s settings counting p = .ok projection →
    ∃ distinct aggregates plain, distinct.map Occurrence.key = p.distinct ∧
      plain.map Occurrence.key = p.resultKeys ∧
      projection.columns = laidOut distinct aggregates plain ∧
      ∀ o ∈ distinct ++ plain, o.key = k → o.column = text
  grouped : ∀ c : Criteria, c.projected.isSome → given? c.groupBy = some k → ',' ∉ k.toList →
    (c.groupByClause s).outcome = .ok ("GROUP BY " ++ text)

/-- The text stands for the key behind ORDER BY and on the left-hand side of conditions. -/
structure WritesExpression (s : Scope) (k text : String) : Prop where
  sorted : ∀ (c : Criteria) orderBy, c.fixedSort = false → c.orderByClause s = .ok orderBy →
    ∃ texts, orderBy = (if texts.isEmpty then "" else "ORDER BY " ++ joinWith ", " texts) ∧
      List.Forall₂ (fun sort t => sort.key = k → t = text ++ " " ++ sort.effective.name)
        (c.sorts.filter fun sort => !isBlankText sort.key) texts
  compared : ∀ d c b, Filter.leafBody ⟨s, d⟩ c = .ok (some b) → c.predicate.shape ≠ .script →
    c.subject = k → ∃ rest, b = .text text :: .text " " :: rest

variable {column expression : String}

/-- A single key behind GROUP BY. -/
theorem outcome_groupByClause {c : Criteria} (projected : c.projected.isSome)
    (given : given? c.groupBy = some k) (single : ',' ∉ k.toList) :
    (c.groupByClause s).outcome = (s.key k).map ("GROUP BY " ++ ·) := by
  have inked : (trim k).isEmpty = false := by
    rw [Bool.eq_false_iff, ne_eq, String.isEmpty_iff, trim_eq_empty_iff]
    simpa using (Option.filter_eq_some_iff.mp given).2
  have isProjected : c.projected.isNone = false := by
    rw [← Option.not_isSome, projected]
    rfl
  have keys : (((splitAll ',' k).map trim).filter fun key => !key.isEmpty) = [trim k] := by
    rw [splitAll_of_not_mem single, List.map_singleton, List.filter_cons_of_pos (by simp [inked]),
      List.filter_nil]
  rw [groupByClause, given]
  simp only [isProjected, Bool.false_eq_true, if_false, keys, Attempt.outcome_bind,
    Attempt.outcome_lift, Attempt.outcome_pure, List.mapM_cons, List.mapM_nil, key_trim]
  cases s.key k with
  | error e => rfl
  | ok sql => rfl

theorem writesColumn (resolves : s.key k = .ok column) : s.WritesColumn k column := by
  constructor
  · intro settings counting p projection ok
    obtain ⟨distinct, aggregates, plain, ofDistinct, -, ofKeys, columns, -⟩ :=
      recorded_of_ofProjected ok
    refine ⟨distinct, aggregates, plain, ofDistinct.1, ofKeys.1, columns, ?_⟩
    rintro o member rfl
    have found : s.key o.key = .ok o.column :=
      (List.mem_append.mp member).elim (ofDistinct.2 o) (ofKeys.2 o)
    exact Except.ok.inj (found.symm.trans resolves)
  · intro c projected given single
    rw [outcome_groupByClause projected given single, resolves]
    rfl

theorem writesExpression (resolves : s.script k = .ok expression) :
    s.WritesExpression k expression := by
  constructor
  · intro c orderBy sorted ok
    rw [orderByClause, sorted, if_neg Bool.false_ne_true] at ok
    obtain ⟨texts, each, ok⟩ := bind_eq_ok.mp ok
    refine ⟨texts, (pure_eq_ok.mp ok).symm, ?_⟩
    refine (mapM_eq_ok_iff.mp each).imp fun sort text written => ?_
    rintro rfl
    rw [resolves] at written
    exact (pure_eq_ok.mp written).symm
  · rintro d c b body unscripted rfl
    cases Filter.leafBody_eq_some_iff.mp body with
    | script shape => exact absurd shape unscripted
    | nullCheck shape some found =>
      rw [Condition.subject, if_pos shape] at resolves
      rw [Except.ok.inj (found.symm.trans resolves)]
      exact ⟨_, rfl⟩
    | comparison shape _ _ _ found =>
      have other : c.predicate.shape ≠ .nullCheck := by
        intro isNullCheck
        rw [isNullCheck] at shape
        cases shape
      rw [Condition.subject, if_neg other] at resolves
      rw [Except.ok.inj (found.symm.trans resolves)]
      exact ⟨_, rfl⟩

/-- A key that resolves is one text in the select list and behind GROUP BY, and one text behind
ORDER BY and on the left of conditions. A lone key is the same text in all of them. A compound text
that is no name as a whole stands in the former as it is, so the two are the same, up to blanks,
exactly when resolving its tokens changes nothing but blanks. In particular, the argument of a
function call is resolved in the latter only. -/
theorem written_in_clauses (ofKey : s.key k = .ok column) (ofScript : s.script k = .ok expression) :
    s.WritesColumn k column ∧ s.WritesExpression k expression ∧
    (isLone k → column = expression) ∧
    (isLone k = false → s.simpleKey (trim k) = trim k → column = trim k ∧
      (words column = words expression ↔ words expression = words k)) ∧
    ∀ function argument, k = function ++ "(" ++ argument ++ ")" → Solid function →
      isLone argument → trim argument = argument →
      ∃ sql, s.key argument = .ok sql ∧ expression = function ++ "(" ++ sql ++ ")" ∧
        (s.simpleKey k = k → (column = expression ↔ sql = argument)) := by
  refine ⟨writesColumn ofKey, writesExpression ofScript, ?_, ?_, ?_⟩
  · intro lone
    rw [script_of_lone lone, ofKey] at ofScript
    exact Except.ok.inj ofScript
  · intro compound unnamed
    rw [key_of_compound compound unnamed] at ofKey
    obtain rfl := Except.ok.inj ofKey
    refine ⟨rfl, ?_⟩
    rw [Source.words_trim]
    exact eq_comm
  · rintro function argument rfl solid lone trimmed
    rw [script_call solid lone trimmed] at ofScript
    obtain ⟨sql, found, rfl⟩ := map_eq_ok.mp ofScript
    refine ⟨sql, found, rfl, ?_⟩
    intro unnamed
    have inked : Solid argument := trimmed ▸ (isLone_iff.mp lone).2.1
    rw [key_call solid inked unnamed] at ofKey
    rw [← Except.ok.inj ofKey, String.append_left_inj, String.append_right_inj]
    exact eq_comm

/-- A qualified key with blanks around it, behind GROUP BY and in a condition. -/
theorem written_in_clauses_qualified :
    (Criteria.groupByClause
        { entity := "OrderItem", groupBy := some " orderItem.orderId ", projected := some {} }
        ⟨Depot.catalog, Depot.orderItem, .empty⟩).outcome = .ok "GROUP BY t_order_item.order_id" ∧
      ∃ rest, Filter.leafBody ⟨⟨Depot.catalog, Depot.orderItem, .empty⟩, .mysql⟩
          (Condition.withValue .eq " orderItem.orderId " (.int 7)) =
        .ok (some (.text "t_order_item.order_id" :: .text " " :: rest)) := by
  have ofKey : key ⟨Depot.catalog, Depot.orderItem, .empty⟩ " orderItem.orderId " =
      .ok "t_order_item.order_id" := by decide +kernel
  obtain ⟨expression, ofScript⟩ := exists_of_isOk
    (x := script ⟨Depot.catalog, Depot.orderItem, .empty⟩ " orderItem.orderId ") (by decide +kernel)
  obtain ⟨b, body⟩ : ∃ b, Filter.leafBody ⟨⟨Depot.catalog, Depot.orderItem, .empty⟩, .mysql⟩
      (Condition.withValue .eq " orderItem.orderId " (.int 7)) = .ok (some b) :=
    ⟨_, rfl⟩
  obtain ⟨columns, expressions, lone, -, -⟩ := written_in_clauses ofKey ofScript
  obtain ⟨rest, parts⟩ := expressions.compared _ _ _ body (by decide) rfl
  refine ⟨columns.grouped _ rfl (by decide +kernel) (by decide), rest, ?_⟩
  rw [body, parts, lone (by decide +kernel)]

end Scope

namespace Depot

/-- A read that filters, groups, sorts and projects by one call. -/
def byCall : Criteria where
  entity := "OrderItem"
  conditions := [Condition.withValue .eq "UPPER(orderId)" (.int 7)]
  sorts := [⟨"UPPER(orderId)", none⟩]
  groupBy := some "UPPER(orderId)"
  projected := some { resultKeys := ["UPPER(orderId)"] }

end Depot

/-- A call has the column of its argument behind WHERE and ORDER BY, and the name of the property in
the select list and behind GROUP BY. -/
theorem Criteria.clauses_of_call :
    ((Depot.byCall.compile Depot.catalog {}).outcome.map fun r =>
        (r.columns, Fragment.sql r.filter, r.groupBy, r.orderBy)) =
      .ok ("UPPER(orderId)", "WHERE UPPER(order_id) = ?", "GROUP BY UPPER(orderId)",
        "ORDER BY UPPER(order_id) DESC") := by
  decide +kernel

end BoundQuery
