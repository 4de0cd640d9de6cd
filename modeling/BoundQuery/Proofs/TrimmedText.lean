import BoundQuery.Proofs.Marks

/-!
# Texts without outer blanks

A text is trimmed when it is not empty and neither starts nor ends with a blank. A text without any
blanks is solid. Words are solid, and solid texts that are not empty are trimmed.

## Main definitions

* `Text.isTrimmed`, texts that trimming leaves alone
* `Text.Solid`, texts without blanks

## Main results

* `Text.isTrimmed_append` — a text between trimmed ends is trimmed
* `Text.toList_eq_trim` — a text is its trimmed text with blanks around it
* `Text.solid_of_mem_words` — words are solid
-/

namespace BoundQuery

namespace Text

/-- Does the first character exist and is it no blank? -/
def startsInked : List Char → Bool
  | [] => false
  | c :: _ => !isBlank c

/-- A text that is not empty and neither starts nor ends with a blank. -/
def isTrimmed (s : String) : Bool :=
  startsInked s.toList && startsInked s.toList.reverse

/-- A text without blanks. -/
def Solid (s : String) : Prop :=
  ∀ c ∈ s.toList, isBlank c = false

variable {cs ds : List Char} {s t : String}

theorem startsInked_append (starts : startsInked cs) : startsInked (cs ++ ds) := by
  cases cs with
  | nil => cases starts
  | cons c cs => exact starts

theorem startsInked_of_solid (given : cs ≠ []) (solid : ∀ c ∈ cs, isBlank c = false) :
    startsInked cs := by
  cases cs with
  | nil => exact absurd rfl given
  | cons c cs => simp [startsInked, solid c List.mem_cons_self]

/-- Characters without blanks can stand in front. -/
theorem startsInked_append_right (solid : ∀ c ∈ cs, isBlank c = false) (starts : startsInked ds) :
    startsInked (cs ++ ds) := by
  by_cases empty : cs = []
  · rw [empty]
    exact starts
  · exact startsInked_append (startsInked_of_solid empty solid)

theorem isTrimmed_iff :
    isTrimmed s ↔ startsInked s.toList ∧ startsInked s.toList.reverse := by
  rw [isTrimmed, Bool.and_eq_true]

theorem ne_empty_of_isTrimmed (trimmed : isTrimmed s) : s ≠ "" := by
  rintro rfl
  cases trimmed

/-- A text between trimmed ends is trimmed, whatever stands in the middle. -/
theorem isTrimmed_append (left : isTrimmed s) (middle : String) (right : isTrimmed t) :
    isTrimmed (s ++ middle ++ t) := by
  rw [isTrimmed_iff] at left right ⊢
  simp only [String.toList_append, List.reverse_append, List.append_assoc]
  exact ⟨startsInked_append left.1, startsInked_append right.2⟩

theorem isTrimmed_of_solid (given : s ≠ "") (solid : Solid s) : isTrimmed s := by
  have chars : s.toList ≠ [] := by simpa using given
  rw [isTrimmed_iff]
  constructor
  · exact startsInked_of_solid chars solid
  · apply startsInked_of_solid
    · simpa using given
    · intro c member
      exact solid c (List.mem_reverse.mp member)

/-- Texts without blanks can stand around a trimmed text. -/
theorem isTrimmed_between (left : Solid s) {middle : String} (trimmed : isTrimmed middle)
    (right : Solid t) : isTrimmed (s ++ middle ++ t) := by
  rw [isTrimmed_iff] at trimmed ⊢
  simp only [String.toList_append, List.reverse_append]
  constructor
  · exact startsInked_append (startsInked_append_right left trimmed.1)
  · refine startsInked_append_right ?_ (startsInked_append trimmed.2)
    intro c member
    exact right c (List.mem_reverse.mp member)

theorem dropBlanks_of_startsInked (starts : startsInked cs) : dropBlanks cs = cs := by
  cases cs with
  | nil => rfl
  | cons c cs =>
    have ink : ¬ isBlank c := by simpa [startsInked] using starts
    rw [dropBlanks, List.dropWhile_cons_of_neg ink]

/-- Trimming leaves trimmed texts alone. -/
theorem trim_of_isTrimmed (trimmed : isTrimmed s) : trim s = s := by
  obtain ⟨first, last⟩ := isTrimmed_iff.mp trimmed
  have back : s.toList.reverse.dropWhile isBlank = s.toList.reverse :=
    dropBlanks_of_startsInked last
  rw [trim, dropBlanks_of_startsInked first, dropBlanksEnd, back, List.reverse_reverse,
    String.ofList_toList]

theorem trim_of_solid (solid : Solid s) : trim s = s := by
  by_cases empty : s = ""
  · rw [empty]
    rfl
  · exact trim_of_isTrimmed (isTrimmed_of_solid empty solid)

/-! ### Words -/

/-- A text is its trimmed text with blanks around it. -/
theorem toList_eq_trim (s : String) : ∃ before after : List Char,
    s.toList = before ++ (trim s).toList ++ after ∧ before.all isBlank ∧ after.all isBlank := by
  refine ⟨s.toList.takeWhile isBlank, ((dropBlanks s.toList).reverse.takeWhile isBlank).reverse,
    ?_, ?_, ?_⟩
  · have back : dropBlanksEnd (dropBlanks s.toList) ++
        ((dropBlanks s.toList).reverse.takeWhile isBlank).reverse = dropBlanks s.toList := by
      rw [dropBlanksEnd, ← List.reverse_append, List.takeWhile_append_dropWhile,
        List.reverse_reverse]
    rw [trim, String.toList_ofList, List.append_assoc, back, dropBlanks,
      List.takeWhile_append_dropWhile]
  · exact List.all_takeWhile
  · rw [List.all_reverse]
    exact List.all_takeWhile

/-- A word has a character. -/
theorem ne_nil_of_mem_wordsOf {w : List Char} (member : w ∈ wordsOf cs) : w ≠ [] := by
  fun_induction wordsOf cs with
  | case1 => cases member
  | case2 c cs blank ih => exact ih member
  | case3 c ink => simp_all
  | case4 c ink d ds blank ih =>
    rcases List.mem_cons.mp member with rfl | member
    · exact List.cons_ne_nil c []
    · exact ih member
  | case5 c ink d ds inkNext empty ih => simp_all
  | case6 c ink d ds inkNext v vs split ih =>
    simp only [split] at member ih
    rcases List.mem_cons.mp member with rfl | member
    · exact List.cons_ne_nil c v
    · exact ih (List.mem_cons_of_mem v member)

/-- A word is a solid text. -/
theorem solid_of_mem_words {word : String} (member : word ∈ words s) : word ≠ "" ∧ Solid word := by
  obtain ⟨w, isWord, rfl⟩ := List.mem_map.mp member
  constructor
  · simpa using ne_nil_of_mem_wordsOf isWord
  · intro c inWord
    rw [String.toList_ofList] at inWord
    -- the words hold what is not blank
    have kept : c ∈ (wordsOf s.toList).flatten := List.mem_flatten.mpr ⟨w, isWord, inWord⟩
    rw [flatten_wordsOf, List.mem_filter] at kept
    simpa using kept.2

theorem words_ne_nil (given : isBlankText s = false) : words s ≠ [] := by
  intro none
  have kept := flatten_wordsOf s.toList
  rw [List.map_eq_nil_iff.mp none, List.flatten_nil, eq_comm, List.filter_eq_nil_iff] at kept
  have blank : isBlankText s := List.all_eq_true.mpr fun c member => by simpa using kept c member
  rw [blank] at given
  cases given

end Text

end BoundQuery
