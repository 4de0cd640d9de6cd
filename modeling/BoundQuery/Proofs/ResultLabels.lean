import BoundQuery.Proofs.ReadAlignment

/-!
# Result labels stand for the keys that were asked for

A projection gives labels to dotted columns and to aggregates and records what each label stands
for. Generated labels are the stem with the number of labels so far. Aggregates of one label count
once, so not every aggregate makes the number grow; but it never shrinks, and the label of an
aggregate never ends in a digit, so each generated label is new and keeps its meaning.

## Main definitions

* `Labels.numbered`, the generated labels
* `Labels.Fresh`, the invariant: the number of labels is above each number in use
* `Projection.Occurrence`, a requested key with its column and the label of the column
* `Labels.Labelling`, the run that labels the columns from left to right

## Main results

* `Labels.Labelling.fresh`, `Labels.Labelling.find?_label` — generated labels stay new, and stand
  for their columns
* `Projection.propertyFor_ofProjected` — labels stand for the keys and aggregates that were
  requested
-/

namespace BoundQuery

open Text

/-! ### Generated labels -/

namespace Labels

/-- The generated label of a number. -/
def numbered (stem : String) (n : Nat) : String :=
  stem ++ String.ofList (Nat.toDigits 10 n)

theorem numbered_injective {stem : String} {m n : Nat} (same : numbered stem m = numbered stem n) :
    m = n := by
  rw [numbered, numbered, ← String.toList_inj, String.toList_append, String.toList_append,
    String.toList_ofList, String.toList_ofList] at same
  have digits : Nat.toDigits 10 m = Nat.toDigits 10 n := List.append_cancel_left same
  rw [← @Nat.ofDigitChars_ten_toDigits m, digits, Nat.ofDigitChars_ten_toDigits]

/-- A generated label ends in a digit. -/
theorem getLast?_numbered (stem : String) (n : Nat) :
    ∃ c, (numbered stem n).toList.getLast? = some c ∧ c.isDigit := by
  have last := List.getLast?_eq_some_getLast (Nat.toDigits_ne_nil (n := n) (b := 10))
  refine ⟨_, ?_, Nat.isDigit_of_mem_toDigits (by decide) (by decide)
    (List.getLast_mem (Nat.toDigits_ne_nil (n := n) (b := 10)))⟩
  rw [numbered, String.toList_append, String.toList_ofList,
    List.getLast?_append_of_ne_nil _ Nat.toDigits_ne_nil, last]

/-- The label of an aggregate ends in a letter, so it is no generated label. -/
theorem label_ne_numbered (r : Reduce) (separator stem : String) (n : Nat) :
    r.label separator ≠ numbered stem n := by
  intro same
  obtain ⟨c, last, digit⟩ := getLast?_numbered stem n
  rw [← same, Reduce.label, String.toList_append] at last
  cases kind : r.aggregate <;>
    · rw [kind, List.getLast?_append_of_ne_nil _ (by decide)] at last
      cases last
      cases digit

/-- The invariant of labelling: each generated label in use has a number below the number of
labels. -/
def Fresh (stem : String) (l : Labels) : Prop :=
  ∀ n, l.expressions.find? (numbered stem n) ≠ none → n < l.expressions.size

variable {stem : String} {l l' : Labels}

/-- The next label is new. -/
theorem Fresh.next (fresh : l.Fresh stem) : l.expressions.find? (l.next stem) = none := by
  by_contra inUse
  exact Nat.lt_irrefl _ (fresh _ inUse)

/-- A label of the next number keeps the invariant. -/
theorem Fresh.putNext (fresh : l.Fresh stem) (column : String) :
    (l.putExpression (l.next stem) column).Fresh stem := by
  have size : (l.putExpression (l.next stem) column).expressions.size = l.expressions.size + 1 :=
    Dictionary.size_insert_of_none fresh.next
  intro n inUse
  rw [size]
  rw [putExpression, Dictionary.find?_insert] at inUse
  split at inUse
  · next same =>
    have : n = l.expressions.size := numbered_injective same
    omega
  · have := fresh n inUse
    omega

end Labels

/-! ### Labelling from left to right -/

namespace Projection

/-- A requested key, its column, and the label that was generated for the column. -/
structure Occurrence where
  key : String
  column : String
  label : Option String
  deriving DecidableEq

namespace Occurrence

/-- The key with its column. -/
def pair (o : Occurrence) : String × String :=
  (o.key, o.column)

/-- The column as the projection writes it. -/
def text (o : Occurrence) : String :=
  match o.label with
  | none => o.column
  | some label => o.column ++ " AS " ++ label

/-- The written column shows the label. -/
theorem eq_of_text {o other : Occurrence} (keys : o.key = other.key)
    (columns : o.column = other.column) (texts : o.text = other.text) : o = other := by
  obtain ⟨key, column, label⟩ := o
  obtain ⟨_, _, otherLabel⟩ := other
  obtain rfl : key = _ := keys
  obtain rfl : column = _ := columns
  replace texts := congrArg String.toList texts
  cases label <;> cases otherLabel <;> simp_all [text, String.toList_inj]

end Occurrence

end Projection

namespace Labels

open Projection

variable {stem : String} {l l' : Labels} {os : List Occurrence}

/-- The run that labels the columns of requested keys from left to right. -/
inductive Labelling (stem : String) : Labels → List Occurrence → Labels → Prop
  | done (l : Labels) : Labelling stem l [] l
  | bare {l l' : Labels} {key column : String} {os : List Occurrence} :
    needsLabel column = false → Labelling stem l os l' →
    Labelling stem l (⟨key, column, none⟩ :: os) l'
  | labelled {l l' : Labels} {key column : String} {os : List Occurrence} :
    needsLabel column = true → Labelling stem (l.putExpression (l.next stem) column) os l' →
    Labelling stem l (⟨key, column, some (l.next stem)⟩ :: os) l'

theorem labelling_columns (stem : String) (l : Labels) (pairs : List (String × String)) :
    ∃ os, os.map Occurrence.pair = pairs ∧
      (l.columns stem (pairs.map Prod.snd)).1 = os.map Occurrence.text ∧
      Labelling stem l os (l.columns stem (pairs.map Prod.snd)).2 := by
  induction pairs generalizing l with
  | nil => exact ⟨[], rfl, rfl, .done l⟩
  | cons pair pairs ih =>
    obtain ⟨key, column⟩ := pair
    cases needs : needsLabel column with
    | false =>
      obtain ⟨os, same, texts, run⟩ := ih l
      refine ⟨⟨key, column, none⟩ :: os, ?_, ?_, ?_⟩
      · rw [List.map_cons, same, Occurrence.pair]
      · simp [columns, Labels.column, needs, texts, Occurrence.text]
      · simpa [columns, Labels.column, needs] using Labelling.bare needs run
    | true =>
      obtain ⟨os, same, texts, run⟩ := ih (l.putExpression (l.next stem) column)
      refine ⟨⟨key, column, some (l.next stem)⟩ :: os, ?_, ?_, ?_⟩
      · rw [List.map_cons, same, Occurrence.pair]
      · simp [columns, Labels.column, needs, texts, Occurrence.text]
      · simpa [columns, Labels.column, needs] using Labelling.labelled needs run

namespace Labelling

theorem properties (run : Labelling stem l os l') : l'.properties = l.properties := by
  induction run with
  | done l => rfl
  | bare _ _ ih => exact ih
  | labelled _ _ ih => exact ih

/-- Columns that need a label have one, and all labels are generated ones. -/
theorem generated (run : Labelling stem l os l') :
    ∀ o ∈ os, (needsLabel o.column = true → ∃ n, o.label = some (numbered stem n)) ∧
      ∀ label, o.label = some label → ∃ n, label = numbered stem n := by
  induction run with
  | done l => simp
  | bare plain _ ih =>
    rw [List.forall_mem_cons]
    refine ⟨⟨fun needs => ?_, fun label given => by cases given⟩, ih⟩
    rw [plain] at needs
    cases needs
  | @labelled l _ _ _ _ _ _ ih =>
    rw [List.forall_mem_cons]
    exact ⟨⟨fun _ => ⟨_, rfl⟩,
      fun label given => ⟨l.expressions.size, (Option.some.inj given).symm⟩⟩, ih⟩

theorem fresh (run : Labelling stem l os l') (fresh : l.Fresh stem) : l'.Fresh stem := by
  induction run with
  | done l => exact fresh
  | bare _ _ ih => exact ih fresh
  | labelled _ _ ih => exact ih (fresh.putNext _)

/-- Labels that the run does not generate stand for what they stood for. -/
theorem find?_of_not_given (run : Labelling stem l os l') {label : String}
    (other : ∀ o ∈ os, o.label ≠ some label) :
    l'.expressions.find? label = l.expressions.find? label := by
  induction run with
  | done l => rfl
  | bare _ _ ih =>
    rw [List.forall_mem_cons] at other
    exact ih other.2
  | labelled _ _ ih =>
    rw [List.forall_mem_cons] at other
    have apart : label ≠ _ := fun same => other.1 (congrArg some same.symm)
    rw [ih other.2, putExpression, Dictionary.find?_insert, if_neg apart]

/-- A run from fresh labels keeps all labels, since it generates new ones only. -/
theorem find?_of_find? (run : Labelling stem l os l') (fresh : l.Fresh stem)
    {label expression : String} (found : l.expressions.find? label = some expression) :
    l'.expressions.find? label = some expression := by
  induction run with
  | done l => exact found
  | bare _ _ ih => exact ih fresh found
  | labelled _ _ ih =>
    refine ih (fresh.putNext _) ?_
    rw [putExpression, Dictionary.find?_insert, if_neg, found]
    rintro rfl
    rw [fresh.next] at found
    cases found

/-- A generated label stands for its column. -/
theorem find?_label (run : Labelling stem l os l') (fresh : l.Fresh stem) :
    ∀ o ∈ os, ∀ label, o.label = some label → l'.expressions.find? label = some o.column := by
  induction run with
  | done l => simp
  | bare _ _ ih =>
    rw [List.forall_mem_cons]
    exact ⟨fun label given => (by cases given), ih fresh⟩
  | labelled _ rest ih =>
    rw [List.forall_mem_cons]
    refine ⟨fun label given => ?_, ih (fresh.putNext _)⟩
    cases given
    refine rest.find?_of_find? (fresh.putNext _) ?_
    rw [putExpression, Dictionary.find?_insert, if_pos rfl]

end Labelling

end Labels

/-! ### Projections -/

namespace Projection

open Labels

variable {scope : Scope} {settings : Settings} {counting : Bool} {p : Projected}
  {projection : Projection}

theorem recordKeys_eq (l : Labels) (pairs : List (String × String)) :
    recordKeys l pairs = { l with properties := l.properties.insertAll pairs } := by
  induction pairs generalizing l with
  | nil => rfl
  | cons pair pairs ih => exact ih (l.putProperty pair.1 pair.2)

theorem recordAggregates_eq (l : Labels) (as : List Aggregated) :
    recordAggregates l as =
      { l with expressions := l.expressions.insertAll (as.map fun a => (a.label, a.target)) } := by
  induction as generalizing l with
  | nil => rfl
  | cons a as ih => exact ih (l.putExpression a.label a.target)

/-- The keys are requested in this order, and each has its column. -/
def Requested (scope : Scope) (keys : List String) (os : List Occurrence) : Prop :=
  os.map Occurrence.key = keys ∧ ∀ o ∈ os, scope.key o.key = .ok o.column

theorem requested_of_resolved {keys : List String} {os : List Occurrence}
    {pairs : List (String × String)} (ok : resolved scope keys = .ok pairs)
    (same : os.map Occurrence.pair = pairs) : Requested scope keys os := by
  subst same
  have each := Outcome.mapM_eq_ok_iff.mp ok
  clear ok
  induction os generalizing keys with
  | nil =>
    cases each
    exact ⟨rfl, by simp⟩
  | cons o os ih =>
    rw [List.map_cons, List.forall₂_cons_right_iff] at each
    obtain ⟨key, rest, first, each, rfl⟩ := each
    obtain ⟨column, found, result⟩ := Outcome.bind_eq_ok.mp first
    obtain ⟨rfl, rfl⟩ := Prod.mk.inj (Outcome.pure_eq_ok.mp result)
    obtain ⟨keys, columns⟩ := ih each
    exact ⟨by rw [List.map_cons, keys], List.forall_mem_cons.mpr ⟨found, columns⟩⟩

/-- Keys and written columns show the occurrences. -/
theorem Requested.eq_of_texts {keys : List String} {os others : List Occurrence}
    (requested : Requested scope keys os) (again : Requested scope keys others)
    (texts : os.map Occurrence.text = others.map Occurrence.text) : os = others := by
  obtain ⟨rfl, columns⟩ := requested
  obtain ⟨same, otherColumns⟩ := again
  induction os generalizing others with
  | nil => exact (List.map_eq_nil_iff.mp same).symm
  | cons o os ih =>
    obtain ⟨other, others, rfl, sameKey, same⟩ := List.map_eq_cons_iff.mp same
    rw [List.forall_mem_cons] at columns otherColumns
    obtain ⟨sameText, texts⟩ := List.cons.inj texts
    have found := columns.1
    rw [← sameKey, otherColumns.1] at found
    rw [Occurrence.eq_of_text sameKey.symm (Except.ok.inj found).symm sameText,
      ih texts columns.2 same otherColumns.2]

/-- The aggregates stand in this order, each with its label. -/
def Reduced (scope : Scope) (separator : String) (reduces : List Reduce) (columns : List String) :
    Prop :=
  List.Forall₂ (fun r column => ∃ call, r.call scope = .ok call ∧
    column = call ++ " AS " ++ r.label separator) reduces columns

/-- The columns: distinct keys in one, then the aggregates, then the other keys. -/
def laidOut (distinct : List Occurrence) (aggregates : List String) (plain : List Occurrence) :
    List String :=
  (if distinct.isEmpty then []
    else ["DISTINCT " ++ joinWith ", " (distinct.map Occurrence.text)]) ++
  aggregates ++ plain.map Occurrence.text

/-- What the labels of a projection record. -/
structure Recorded (settings : Settings) (reduces : List Reduce) (os : List Occurrence)
    (l : Labels) : Prop where
  properties : l.properties = Dictionary.empty.insertAll (os.map Occurrence.pair)
  generated : ∀ o ∈ os, needsLabel o.column = true →
    ∃ n, o.label = some (numbered settings.stem n)
  ofLabel : ∀ o ∈ os, ∀ label, o.label = some label → l.expressions.find? label = some o.column
  ofAggregate : ∀ r ∈ reduces,
    (∀ other ∈ reduces, other.label settings.separator = r.label settings.separator →
      other.target = r.target) →
    l.expressions.find? (r.label settings.separator) = some r.target
  ofOther : ∀ label, (∀ o ∈ os, o.label ≠ some label) →
    (∀ r ∈ reduces, r.label settings.separator ≠ label) → l.expressions.find? label = none

/-- Two runs of labelling, with the aggregates recorded between them. -/
theorem recorded_of_labelling {start first between last : Labels}
    {distinct plain : List Occurrence} {reduces : List Reduce}
    (unlabelled : start.expressions = .empty)
    (properties : start.properties =
      Dictionary.empty.insertAll ((distinct ++ plain).map Occurrence.pair))
    (runDistinct : Labelling settings.stem start distinct first)
    (kept : between.properties = first.properties)
    (aggregates : between.expressions = first.expressions.insertAll
      (reduces.map fun r => (r.label settings.separator, r.target)))
    (runPlain : Labelling settings.stem between plain last) :
    Recorded settings reduces (distinct ++ plain) last := by
  have fresh : start.Fresh settings.stem := by
    intro n inUse
    rw [unlabelled] at inUse
    exact absurd rfl inUse
  -- no aggregate has a generated label, so recording them leaves these alone
  have apart : ∀ n, ∀ e ∈ reduces.map fun r => (r.label settings.separator, r.target),
      e.1 ≠ numbered settings.stem n := by
    intro n e member
    obtain ⟨r, -, rfl⟩ := List.mem_map.mp member
    exact label_ne_numbered r _ _ n
  have freshBetween : between.Fresh settings.stem := by
    intro n inUse
    rw [aggregates] at inUse ⊢
    rw [Dictionary.find?_insertAll_of_not_mem (apart n)] at inUse
    exact Nat.lt_of_lt_of_le (runDistinct.fresh fresh n inUse) (Dictionary.size_le_insertAll _)
  have ofLabelled : ∀ r : Reduce, ∀ o ∈ plain, o.label ≠ some (r.label settings.separator) := by
    intro r o member given
    obtain ⟨n, same⟩ := (runPlain.generated o member).2 _ given
    exact label_ne_numbered r _ _ n same
  constructor
  · rw [runPlain.properties, kept, runDistinct.properties, properties]
  · intro o member
    rcases List.mem_append.mp member with member | member
    · exact (runDistinct.generated o member).1
    · exact (runPlain.generated o member).1
  · intro o member label given
    rcases List.mem_append.mp member with member | member
    · obtain ⟨n, rfl⟩ := (runDistinct.generated o member).2 label given
      refine runPlain.find?_of_find? freshBetween ?_
      rw [aggregates, Dictionary.find?_insertAll_of_not_mem (apart n)]
      exact runDistinct.find?_label fresh o member _ given
    · exact runPlain.find?_label freshBetween o member label given
  · intro r member agree
    rw [runPlain.find?_of_not_given (ofLabelled r), aggregates]
    refine Dictionary.find?_insertAll_of_mem (List.mem_map.mpr ⟨r, member, rfl⟩) ?_
    intro e isEntry same
    obtain ⟨other, isReduce, rfl⟩ := List.mem_map.mp isEntry
    exact agree other isReduce same
  · intro label notGenerated notAggregate
    rw [List.forall_mem_append] at notGenerated
    rw [runPlain.find?_of_not_given notGenerated.2, aggregates,
      Dictionary.find?_insertAll_of_not_mem, runDistinct.find?_of_not_given notGenerated.1,
      unlabelled]
    · rfl
    · intro e member
      obtain ⟨r, isReduce, rfl⟩ := List.mem_map.mp member
      exact notAggregate r isReduce

/-- What a projection that was built writes and records. -/
theorem recorded_of_ofProjected (ok : ofProjected scope settings counting p = .ok projection) :
    ∃ distinct aggregates plain,
      Requested scope p.distinct distinct ∧ Reduced scope settings.separator p.reduces aggregates ∧
      Requested scope p.resultKeys plain ∧
      projection.columns = laidOut distinct aggregates plain ∧
      Recorded settings p.reduces (distinct ++ plain) projection.labels := by
  obtain ⟨distinctPairs, as, plainPairs, ofDistinct, ofReduces, ofKeys, rfl⟩ :=
    ofProjected_eq_ok ok
  have each := Outcome.mapM_eq_ok_iff.mp ofReduces
  have entries : as.map (fun a => (a.label, a.target)) =
      p.reduces.map fun r => (r.label settings.separator, r.target) := by
    refine (Outcome.map_eq_map_of_forall₂ (each.imp fun r a ok => ?_)).symm
    obtain ⟨call, -, rfl⟩ := aggregated_eq_ok ok
    rfl
  have reduced : Reduced scope settings.separator p.reduces (as.map Aggregated.column) := by
    rw [Reduced, List.forall₂_map_right_iff]
    refine each.imp fun r a ok => ?_
    obtain ⟨call, called, rfl⟩ := aggregated_eq_ok ok
    exact ⟨call, called, rfl⟩
  generalize isStart :
    recordKeys (recordKeys { aliases := scope.aliases } distinctPairs) plainPairs = start
  obtain ⟨distinct, sameDistinct, distinctTexts, runDistinct⟩ :=
    labelling_columns settings.stem start distinctPairs
  obtain ⟨plain, samePlain, plainTexts, runPlain⟩ := labelling_columns settings.stem
    (recordAggregates (start.columns settings.stem (distinctPairs.map Prod.snd)).2 as) plainPairs
  refine ⟨distinct, _, plain, requested_of_resolved ofDistinct sameDistinct, reduced,
    requested_of_resolved ofKeys samePlain, ?_,
    recorded_of_labelling ?_ ?_ runDistinct ?_ ?_ runPlain⟩
  · rw [distinctTexts, plainTexts, laidOut, ← sameDistinct, List.isEmpty_map]
  · rw [← isStart, recordKeys_eq, recordKeys_eq]
  · rw [← isStart, recordKeys_eq, recordKeys_eq, List.map_append, sameDistinct, samePlain]
    exact (List.foldl_append).symm
  · rw [recordAggregates_eq]
  · rw [recordAggregates_eq, entries]

namespace Recorded

variable {reduces : List Reduce} {os : List Occurrence} {l : Labels}

/-- A column stands for its key, when it is the column of no other key. -/
theorem nameOf?_column (recorded : Recorded settings reduces os l)
    (columns : ∀ o ∈ os, scope.key o.key = .ok o.column) {o : Occurrence} (member : o ∈ os)
    (only : ∀ other ∈ os, other.column = o.column → other.key = o.key) :
    l.properties.nameOf? o.column = some o.key := by
  rw [recorded.properties]
  refine Dictionary.nameOf?_eq_some (Dictionary.mem_of_find? ?_) ?_
  · refine Dictionary.find?_insertAll_of_mem (List.mem_map.mpr ⟨o, member, rfl⟩) ?_
    intro e isEntry same
    obtain ⟨other, isOther, rfl⟩ := List.mem_map.mp isEntry
    have resolved := columns other isOther
    rw [show other.key = o.key from same, columns o member] at resolved
    exact (Except.ok.inj resolved).symm
  · intro e isEntry same
    rcases Dictionary.mem_insertAll isEntry with isEntry | isEntry
    · cases isEntry
    · obtain ⟨other, isOther, rfl⟩ := List.mem_map.mp isEntry
      exact only other isOther same

/-- A text that is the column of no key stands for itself. -/
theorem nameOf?_other (recorded : Recorded settings reduces os l) {text : String}
    (other : ∀ o ∈ os, o.column ≠ text) : l.properties.nameOf? text = none := by
  rw [recorded.properties]
  refine Dictionary.nameOf?_eq_none fun e isEntry => ?_
  rcases Dictionary.mem_insertAll isEntry with isEntry | isEntry
  · cases isEntry
  · obtain ⟨o, member, rfl⟩ := List.mem_map.mp isEntry
    exact other o member

end Recorded

/-- Aggregates of one label and one subject stand for the same. -/
theorem target_eq_of_label_eq {r other : Reduce} {separator : String}
    (labels : other.label separator = r.label separator) (subjects : other.subject = r.subject) :
    other.target = r.target := by
  rw [Reduce.label, Reduce.label, subjects, String.append_right_inj] at labels
  rw [Reduce.target, Reduce.target, subjects, labels]

/-- Labels stand for the keys and aggregates that were requested. The label of a key whose column
is its own is the generated one where the column has a dot, and the column itself otherwise. -/
theorem propertyFor_ofProjected (ok : ofProjected scope settings counting p = .ok projection) :
    ∃ distinct aggregates plain,
      Requested scope p.distinct distinct ∧ Reduced scope settings.separator p.reduces aggregates ∧
      Requested scope p.resultKeys plain ∧
      projection.columns = laidOut distinct aggregates plain ∧
      (∀ o ∈ distinct ++ plain, hasPart " AS ".toList (asciiUpper o.column) = false →
        (∀ other ∈ distinct ++ plain, other.column = o.column → other.key = o.key) →
        if hasChar '.' o.column then
          ∃ n, o.label = some (numbered settings.stem n) ∧
            projection.labels.propertyFor (numbered settings.stem n) = o.key
        else
          (∀ other ∈ distinct ++ plain, other.label ≠ some o.column) →
          (∀ r ∈ p.reduces, r.label settings.separator ≠ o.column) →
          projection.labels.propertyFor o.column = o.key) ∧
      ∀ r ∈ p.reduces,
        (∀ other ∈ p.reduces, other.label settings.separator = r.label settings.separator →
          other.subject = r.subject) →
        (∀ o ∈ distinct ++ plain, o.column ≠ r.subject ++ "_" ++ r.aggregate.suffix) →
        projection.labels.propertyFor (r.label settings.separator) =
          r.subject ++ "_" ++ r.aggregate.suffix := by
  obtain ⟨distinct, aggregates, plain, ofDistinct, ofReduces, ofKeys, columns, recorded⟩ :=
    recorded_of_ofProjected ok
  have resolved : ∀ o ∈ distinct ++ plain, scope.key o.key = .ok o.column :=
    List.forall_mem_append.mpr ⟨ofDistinct.2, ofKeys.2⟩
  refine ⟨distinct, aggregates, plain, ofDistinct, ofReduces, ofKeys, columns, ?_, ?_⟩
  · intro o member unnamed only
    have named := recorded.nameOf?_column resolved member only
    split
    · next dotted =>
      have needs : needsLabel o.column = true := by
        rw [needsLabel, dotted, unnamed]
        rfl
      obtain ⟨n, given⟩ := recorded.generated o member needs
      refine ⟨n, given, ?_⟩
      rw [propertyFor, recorded.ofLabel o member _ given, Option.getD_some, named, Option.getD_some]
    · intro notGenerated notAggregate
      rw [propertyFor, recorded.ofOther _ notGenerated notAggregate, Option.getD_none, named,
        Option.getD_some]
  · intro r member agree other
    have stands := recorded.ofAggregate r member fun other isReduce same =>
      target_eq_of_label_eq same (agree other isReduce same)
    rw [propertyFor, stands, Option.getD_some, Reduce.target, recorded.nameOf?_other other,
      Option.getD_none]

end Projection

namespace Shop

/-- The orders, with a name for them. -/
def orders : Scope :=
  ⟨catalog, catalog.entities.head (List.cons_ne_nil _ _), .ofList [("o", "Order")]⟩

/-- A projection with a dotted key on either side of aggregates, two of which have one label. -/
def totals : Projected where
  distinct := ["o.status"]
  reduces := [⟨"*", .count, none⟩, ⟨" * ", .count, none⟩, ⟨"o.total", .sum, none⟩]
  resultKeys := ["o.total", "id"]

/-- The distinct key of the projection, as it is written. -/
def status : Projection.Occurrence := ⟨"o.status", "o.order_status", some "c0"⟩

/-- The plain keys of the projection, as they are written. -/
def plainKeys : List Projection.Occurrence :=
  [⟨"o.total", "o.total", some "c3"⟩, ⟨"id", "id", none⟩]

theorem requested_status : Projection.Requested orders totals.distinct [status] :=
  ⟨rfl, by decide +kernel⟩

theorem requested_plainKeys : Projection.Requested orders totals.resultKeys plainKeys :=
  ⟨rfl, by decide +kernel⟩

end Shop

/-- The labels of a projection of orders. -/
theorem Projection.propertyFor_ofProjected_totals :
    ∃ projection, ofProjected Shop.orders {} false Shop.totals = .ok projection ∧
      projection.columns = ["DISTINCT o.order_status AS c0", "COUNT(*) AS all_count",
        "COUNT(*) AS all_count", "SUM(o.total) AS o$total_sum", "o.total AS c3", "id"] ∧
      projection.labels.propertyFor "c3" = "o.total" ∧
      projection.labels.propertyFor "id" = "id" ∧
      projection.labels.propertyFor "o$total_sum" = "o.total_sum" := by
  obtain ⟨projection, ok⟩ := Outcome.exists_of_isOk
    (x := ofProjected Shop.orders {} false Shop.totals) (by decide +kernel)
  have columns : (ofProjected Shop.orders {} false Shop.totals).toOption.map Projection.columns =
      some ["DISTINCT o.order_status AS c0", "COUNT(*) AS all_count", "COUNT(*) AS all_count",
        "SUM(o.total) AS o$total_sum", "o.total AS c3", "id"] := by decide +kernel
  rw [ok] at columns
  replace columns := Option.some.inj columns
  obtain ⟨distinct, aggregates, plain, ofDistinct, ofReduces, ofKeys, laid, keys, reduces⟩ :=
    propertyFor_ofProjected ok
  obtain ⟨o, rfl, -⟩ := List.map_eq_singleton_iff.mp ofDistinct.1
  obtain _ | ⟨_, _ | ⟨_, _ | ⟨_, _ | _⟩⟩⟩ := ofReduces
  obtain ⟨firstText, rest⟩ := List.cons.inj (columns.symm.trans laid)
  obtain rfl : plain = Shop.plainKeys := by
    refine ofKeys.eq_of_texts Shop.requested_plainKeys ?_
    exact (List.cons.inj (List.cons.inj (List.cons.inj rest).2).2).2.symm
  obtain ⟨rfl, -⟩ : o = Shop.status ∧ _ := by
    refine List.cons.inj (ofDistinct.eq_of_texts Shop.requested_status ?_)
    have text : "DISTINCT " ++ Shop.status.text = "DISTINCT " ++ o.text := firstText
    rw [List.map_singleton, List.map_singleton, (String.append_right_inj _).mp text]
  refine ⟨projection, ok, columns, ?_, ?_, ?_⟩
  · have decoded := keys ⟨"o.total", "o.total", some "c3"⟩ (by decide) (by decide +kernel)
      (by decide)
    rw [if_pos (by decide +kernel)] at decoded
    obtain ⟨n, label, decoded⟩ := decoded
    rwa [← Option.some.inj label] at decoded
  · have decoded := keys ⟨"id", "id", none⟩ (by decide) (by decide +kernel) (by decide)
    rw [if_neg (by decide +kernel)] at decoded
    exact decoded (by decide) (by decide)
  · exact reduces ⟨"o.total", .sum, none⟩ (by simp [Shop.totals]) (by decide +kernel)
      (by decide +kernel)

end BoundQuery
