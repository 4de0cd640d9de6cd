import BoundQuery.Proofs.ResultLabels
import BoundQuery.Proofs.SettingsLayers

/-!
# Which aggregates share a label

The label of an aggregate is its property with the separator in place of dots, and then the name of
the function. No function's ending ends in another's, so labels that are equal come from the same
function. A separator that occurs in no identifier can be turned back into dots, so the property is
kept as well. Two cases remain. A separator is no letter, numeral or blank, but it may be the
underscore, which identifiers hold; and all rows have the label of a property `all`.

## Main definitions

* `Reduce.Plain`, aggregates over all rows or over a path of identifiers
* `Reduce.underscored`, the property with underscores in place of dots

## Main results

* `Reduce.label_eq_iff` — the labels that are equal
* `Projection.label_collisions` — the aggregates of a projection that share a label, and when each
  label stands for its own aggregate
-/

namespace BoundQuery

open Text

namespace Text

variable {c : Char} {s t : String}

/-- A character is in one of the pieces, or it is the separator. -/
theorem exists_mem_splitChars {d : Char} {cs : List Char} (member : d ∈ cs) (other : d ≠ c) :
    ∃ piece ∈ splitChars c cs, d ∈ piece := by
  fun_induction splitChars c cs with
  | case1 => cases member
  | case2 ds ih =>
    obtain ⟨piece, isPiece, inPiece⟩ := ih (List.mem_of_ne_of_mem other member)
    exact ⟨piece, List.mem_cons_of_mem _ isPiece, inPiece⟩
  | case3 e ds _ empty ih =>
    rw [empty] at ih
    rcases List.mem_cons.mp member with rfl | member
    · exact ⟨_, List.mem_cons_self, List.mem_cons_self⟩
    · obtain ⟨piece, isPiece, -⟩ := ih member
      cases isPiece
  | case4 e ds _ p ps split ih =>
    rw [split] at ih
    rcases List.mem_cons.mp member with rfl | member
    · exact ⟨_, List.mem_cons_self, List.mem_cons_self⟩
    · obtain ⟨piece, isPiece, inPiece⟩ := ih member
      rcases List.mem_cons.mp isPiece with rfl | isPiece
      · exact ⟨_, List.mem_cons_self, List.mem_cons_of_mem _ inPiece⟩
      · exact ⟨piece, List.mem_cons_of_mem _ isPiece, inPiece⟩

/-- What replaced a character turns back into it, where it did not occur before. -/
theorem replaceEach_replaceEach {d : Char} (new : d ∉ s.toList) :
    replaceEach d (String.singleton c) (replaceEach c (String.singleton d) s) = s := by
  rw [← String.toList_inj]
  simp only [replaceEach, String.toList_ofList, String.toList_singleton, List.flatMap_assoc]
  generalize s.toList = cs at new
  induction cs with
  | nil => rfl
  | cons e es ih =>
    rw [List.mem_cons, not_or] at new
    rw [List.flatMap_cons, ih new.2]
    by_cases replaced : e = c
    · simp [replaced]
    · simp [replaced, Ne.symm new.1]

/-- A text of one character is that character. -/
theorem eq_singleton_of_toList (chars : s.toList = [c]) : s = String.singleton c := by
  rw [← String.toList_inj, chars, String.toList_singleton]

end Text

/-- A separator is one character, not a dot, and continues identifiers only as the underscore. -/
theorem exists_of_isSeparator {separator : String} (sound : isSeparator separator) :
    ∃ c, separator = String.singleton c ∧ c ≠ '.' ∧ (continuesIdentifier c → c = '_') := by
  rw [isSeparator] at sound
  split at sound
  · next c chars =>
    simp only [Bool.and_eq_true, bne_iff_ne, Bool.not_eq_true'] at sound
    obtain ⟨⟨notDot, other⟩, -⟩ := sound
    refine ⟨c, eq_singleton_of_toList chars, notDot, fun continues => ?_⟩
    rw [continuesIdentifier, other, Bool.false_or, beq_iff_eq] at continues
    exact continues
  · cases sound

/-- The function that a label ends in: no ending ends in another. -/
theorem Aggregate.eq_of_isSuffix {a b : Aggregate}
    (ends : ('_' :: a.suffix.toList).isSuffixOf ('_' :: b.suffix.toList)) : a = b := by
  have table : ∀ a ∈ all, ∀ b ∈ all,
      ('_' :: a.suffix.toList).isSuffixOf ('_' :: b.suffix.toList) → a = b := by
    decide +kernel
  have mem_all (a : Aggregate) : a ∈ all := by cases a <;> decide
  exact table a (mem_all a) b (mem_all b) ends

namespace Reduce

variable {r other : Reduce} {separator : String}

/-- An aggregate over all rows, or over identifiers joined by dots. -/
def Plain (r : Reduce) : Prop :=
  trim r.property = "*" ∨ ∀ name ∈ splitAll '.' (trim r.property), isIdentifier name

instance : DecidablePred Plain := fun r =>
  inferInstanceAs (Decidable (trim r.property = "*" ∨ ∀ name ∈ splitAll '.' (trim r.property), _))

/-- What is aggregated, with underscores in place of dots. -/
def underscored (r : Reduce) : String :=
  replaceEach '.' "_" r.subject

/-- The subject of a plain aggregate holds dots and characters of identifiers. -/
theorem Plain.continuesIdentifier_of_mem (plain : r.Plain) {c : Char}
    (member : c ∈ r.subject.toList) (notDot : c ≠ '.') : continuesIdentifier c := by
  rw [subject] at member
  split at member
  · have letters : "all".toList.all continuesIdentifier := by decide +kernel
    exact List.all_eq_true.mp letters c member
  · next notAll =>
    obtain ⟨piece, isPiece, inPiece⟩ := exists_mem_splitChars member notDot
    have named := plain.resolve_left notAll _ (List.mem_map.mpr ⟨piece, isPiece, rfl⟩)
    exact Text.continuesIdentifier_of_mem named c (by rwa [String.toList_ofList])

/-- Aggregates have one subject when they have one property, or when they are over all rows and over
a property of that name. -/
theorem subject_eq_iff : r.subject = other.subject ↔
    trim r.property = trim other.property ∨ r.subject = "all" ∧ other.subject = "all" := by
  simp only [subject]
  split <;> split <;> grind

/-- Equal labels come from the same function, and from subjects that read the same. -/
theorem label_eq_label_iff : r.label separator = other.label separator ↔
    r.aggregate = other.aggregate ∧
      replaceEach '.' separator r.subject = replaceEach '.' separator other.subject := by
  constructor
  · intro same
    have chars := congrArg String.toList same
    simp only [label, String.toList_append, List.append_assoc] at chars
    -- one of the two endings is an end of the other
    have function : r.aggregate = other.aggregate := by
      rcases List.append_eq_append_iff.mp chars with ⟨_, -, ends⟩ | ⟨_, -, ends⟩
      · exact (Aggregate.eq_of_isSuffix (List.isSuffixOf_iff_suffix.mpr ⟨_, ends.symm⟩)).symm
      · exact Aggregate.eq_of_isSuffix (List.isSuffixOf_iff_suffix.mpr ⟨_, ends.symm⟩)
    rw [label, label, function, String.append_left_inj, String.append_left_inj] at same
    exact ⟨function, same⟩
  · rintro ⟨function, same⟩
    rw [label, label, function, same]

/-- Where the separator is not the underscore, dots can be told apart from the rest. -/
theorem Plain.subject_eq (plain : r.Plain) (plainOther : other.Plain)
    (sound : isSeparator separator) (notUnderscore : separator ≠ "_")
    (same : replaceEach '.' separator r.subject = replaceEach '.' separator other.subject) :
    r.subject = other.subject := by
  obtain ⟨c, rfl, notDot, underscore⟩ := exists_of_isSeparator sound
  have new : ∀ r : Reduce, r.Plain → c ∉ r.subject.toList := by
    intro r plain member
    obtain rfl := underscore (plain.continuesIdentifier_of_mem member notDot)
    exact notUnderscore rfl
  rw [← replaceEach_replaceEach (c := '.') (new r plain), same,
    replaceEach_replaceEach (new other plainOther)]

/-- The labels of plain aggregates are equal when function and property are; and they are equal
between all rows and a property `all`, and, where the separator is the underscore, between
properties that differ in dots and underscores only. -/
theorem label_eq_iff (sound : isSeparator separator) (plain : r.Plain) (plainOther : other.Plain) :
    r.label separator = other.label separator ↔ r.aggregate = other.aggregate ∧
      (trim r.property = trim other.property ∨ (r.subject = "all" ∧ other.subject = "all") ∨
        separator = "_" ∧ r.underscored = other.underscored) := by
  rw [label_eq_label_iff, ← or_assoc, ← subject_eq_iff]
  refine and_congr_right fun _ => ?_
  constructor
  · intro same
    by_cases underscore : separator = "_"
    · subst underscore
      exact .inr ⟨rfl, same⟩
    · exact .inl (plain.subject_eq plainOther sound underscore same)
  · rintro (same | ⟨rfl, same⟩)
    · rw [same]
    · exact same

theorem subject_eq_of_target_eq (function : r.aggregate = other.aggregate)
    (same : r.target = other.target) : r.subject = other.subject := by
  rw [target, target, function, String.append_left_inj, String.append_left_inj] at same
  exact same

end Reduce

namespace Projection

variable {settings : Settings}

/-- The aggregates that share a label. With valid settings, plain aggregates have one label exactly
when they are the same function of the same property, or of all rows and a property `all`, or, where
the separator is the underscore, of properties that differ in dots and underscores only. In a
projection each aggregate is written with its label, and each label stands for its own aggregate
exactly when the last of these cases does not occur. -/
theorem label_collisions (sound : settings.faults = []) :
    (∀ r other : Reduce, r.Plain → other.Plain →
      (r.label settings.separator = other.label settings.separator ↔
        r.aggregate = other.aggregate ∧
          (trim r.property = trim other.property ∨ (r.subject = "all" ∧ other.subject = "all") ∨
            settings.separator = "_" ∧ r.underscored = other.underscored))) ∧
    ∀ (scope : Scope) (counting : Bool) (p : Projected) (projection : Projection),
      (∀ r ∈ p.reduces, r.Plain) → ofProjected scope settings counting p = .ok projection →
      (∃ before columns after, projection.columns = before ++ columns ++ after ∧
        Reduced scope settings.separator p.reduces columns) ∧
      ((∀ r ∈ p.reduces,
          projection.labels.expressions.find? (r.label settings.separator) = some r.target) ↔
        (settings.separator = "_" → ∀ r ∈ p.reduces, ∀ other ∈ p.reduces,
          r.aggregate = other.aggregate → r.underscored = other.underscored →
            r.subject = other.subject)) := by
  obtain ⟨-, separator, -⟩ := Settings.faults_eq_nil_iff.mp sound
  refine ⟨fun r other => Reduce.label_eq_iff separator, ?_⟩
  intro scope counting p projection plain ok
  obtain ⟨distinct, aggregates, keys, -, reduced, -, columns, recorded⟩ :=
    recorded_of_ofProjected ok
  refine ⟨⟨_, aggregates, _, columns, reduced⟩, ?_⟩
  constructor
  · intro stands underscore r member other isReduce function alike
    -- both targets are what the one label stands for
    have labels : r.label settings.separator = other.label settings.separator := by
      rw [underscore, Reduce.label_eq_label_iff]
      exact ⟨function, alike⟩
    have found := stands r member
    rw [labels, stands other isReduce] at found
    exact Reduce.subject_eq_of_target_eq function (Option.some.inj found).symm
  · intro apart r member
    refine recorded.ofAggregate r member fun other isReduce labels =>
      target_eq_of_label_eq labels ?_
    obtain ⟨function, same⟩ :=
      (Reduce.label_eq_iff separator (plain other isReduce) (plain r member)).mp labels
    rw [← or_assoc, ← Reduce.subject_eq_iff] at same
    rcases same with same | ⟨underscore, alike⟩
    · exact same
    · exact apart underscore other isReduce r member function alike

end Projection

/-- With the default separator the aggregates of orders keep their labels apart, also from that of a
property that has an underscore in place of the dot. -/
theorem Projection.label_collisions_totals :
    (∀ r ∈ Shop.totals.reduces, r.Plain) ∧
      Reduce.label ⟨"o.total", .sum, none⟩ "$" ≠ Reduce.label ⟨"o_total", .sum, none⟩ "$" ∧
      ∃ projection, ofProjected Shop.orders {} false Shop.totals = .ok projection ∧
        projection.labels.expressions.find? "o$total_sum" = some "o.total_sum" := by
  have plain : ∀ r ∈ Shop.totals.reduces, r.Plain := by decide +kernel
  have sound : ({} : Settings).faults = [] := rfl
  obtain ⟨collide, stand⟩ := label_collisions sound
  refine ⟨plain, fun same => ?_, ?_⟩
  · obtain ⟨-, same⟩ := (collide ⟨"o.total", .sum, none⟩ ⟨"o_total", .sum, none⟩ (by decide +kernel)
      (by decide +kernel)).mp same
    revert same
    decide +kernel
  · obtain ⟨projection, ok⟩ := Outcome.exists_of_isOk
      (x := ofProjected Shop.orders {} false Shop.totals) (by decide +kernel)
    obtain ⟨-, own⟩ := stand Shop.orders false Shop.totals projection plain ok
    exact ⟨projection, ok, own.mpr (fun underscore => absurd underscore (by decide))
      ⟨"o.total", .sum, none⟩ (by simp [Shop.totals])⟩

namespace Shop

/-- Totals under two names, and a count of all rows and of a property. -/
def sharedTotals : Projected where
  reduces := [⟨"o.total", .sum, none⟩, ⟨"o_total", .sum, none⟩, ⟨"*", .count, none⟩,
    ⟨"all", .count, none⟩]

end Shop

/-- The underscore passes as a separator, and then two sums share a label that stands for the second
of them. Two counts share a label with every separator. -/
theorem Projection.label_collision_underscore :
    ({ separator := "_" } : Settings).faults = [] ∧ (∀ r ∈ Shop.sharedTotals.reduces, r.Plain) ∧
      ∃ projection,
        ofProjected Shop.orders { separator := "_" } false Shop.sharedTotals = .ok projection ∧
        projection.columns = ["SUM(o.total) AS o_total_sum", "SUM(o_total) AS o_total_sum",
          "COUNT(*) AS all_count", "COUNT(all) AS all_count"] ∧
        projection.labels.expressions.entries =
          [("o_total_sum", "o_total_sum"), ("all_count", "all_count")] := by
  have built : (ofProjected Shop.orders { separator := "_" } false Shop.sharedTotals).toOption.map
      (fun projection => (projection.columns, projection.labels.expressions.entries)) =
      some (["SUM(o.total) AS o_total_sum", "SUM(o_total) AS o_total_sum",
        "COUNT(*) AS all_count", "COUNT(all) AS all_count"],
        [("o_total_sum", "o_total_sum"), ("all_count", "all_count")]) := by decide +kernel
  obtain ⟨projection, ok⟩ := Outcome.exists_of_isOk
    (x := ofProjected Shop.orders { separator := "_" } false Shop.sharedTotals) (by decide +kernel)
  rw [ok] at built
  obtain ⟨columns, entries⟩ := Prod.mk.inj (Option.some.inj built)
  exact ⟨rfl, by decide +kernel, projection, ok, columns, entries⟩

end BoundQuery
