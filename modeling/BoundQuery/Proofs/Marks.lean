import Mathlib.Data.List.Basic
import Mathlib.Data.List.TakeWhile
import BoundQuery.Text.Blank
import BoundQuery.Text.Case
import BoundQuery.Text.Cut
import BoundQuery.Text.Letter

/-!
# Marks in texts

The marks of a text are its characters of some class, in their order. Cutting a text into words,
trimming it and joining parts of it move no mark, as long as blanks and separators are no marks
themselves; and an identifier holds none.

## Main definitions

* `Text.marks`, the marks of a text
* `Text.MarkClass`, the classes that neither blanks nor identifiers meet

## Main results

* `Text.MarkClass.single` — characters that are classes of their own
* `Text.flatten_wordsOf`, `Text.marks_trim`, `Text.marks_words` — words and trimming keep all that
  is not blank
* `Text.mem_lowerOf` — lower case gives the character itself or one from `a` on
-/

namespace BoundQuery.Text

/-- The characters of a class in a text, in order. -/
def marks (p : Char → Bool) (s : String) : List Char :=
  s.toList.filter p

/-- A class of characters that neither blanks nor identifiers meet, nor the images of case
mapping. -/
structure MarkClass (p : Char → Bool) : Prop where
  not_blank : ∀ c, isBlank c → p c = false
  not_identifier : ∀ c, continuesIdentifier c → p c = false
  below : ∀ c, p c → c.toNat < 97

variable {p q : Char → Bool} {s t : String}

/-- A character before `a` that is neither blank nor part of an identifier is a class of its own. -/
theorem MarkClass.single {c : Char} (ink : isBlank c = false)
    (outside : continuesIdentifier c = false) (below : c.toNat < 97) : MarkClass (· == c) where
  not_blank d blank := by
    rw [beq_eq_false_iff_ne]
    rintro rfl
    rw [ink] at blank
    cases blank
  not_identifier d continues := by
    rw [beq_eq_false_iff_ne]
    rintro rfl
    rw [outside] at continues
    cases continues
  below d mark := by
    rw [beq_iff_eq.mp mark]
    exact below

theorem MarkClass.or (ofP : MarkClass p) (ofQ : MarkClass q) : MarkClass fun c => p c || q c where
  not_blank c blank := by
    rw [ofP.not_blank c blank, ofQ.not_blank c blank]
    rfl
  not_identifier c continues := by
    rw [ofP.not_identifier c continues, ofQ.not_identifier c continues]
    rfl
  below c mark := by
    rw [Bool.or_eq_true] at mark
    exact mark.elim (ofP.below c) (ofQ.below c)

@[simp]
theorem marks_empty : marks p "" = [] := rfl

@[simp]
theorem marks_append : marks p (s ++ t) = marks p s ++ marks p t := by
  rw [marks, String.toList_append, List.filter_append, marks, marks]

@[simp]
theorem marks_ofList (cs : List Char) : marks p (String.ofList cs) = cs.filter p := by
  rw [marks, String.toList_ofList]

theorem marks_eq_nil_iff : marks p s = [] ↔ ∀ c ∈ s.toList, p c = false := by
  simp [marks, List.filter_eq_nil_iff]

/-- A separator without marks leaves the marks of the joined texts in a row. -/
theorem marks_joinWith {separator : String} (lacks : marks p separator = []) (texts : List String) :
    marks p (joinWith separator texts) = texts.flatMap (marks p) := by
  fun_induction joinWith separator texts with
  | case1 => rfl
  | case2 s => simp
  | case3 s rest _ ih => simp [ih, lacks]

/-- Texts without marks are joined to a text without marks. -/
theorem marks_joinWith_eq_nil {separator : String} (lacks : marks p separator = [])
    {texts : List String} (each : ∀ s ∈ texts, marks p s = []) :
    marks p (joinWith separator texts) = [] := by
  rw [marks_joinWith lacks, List.flatMap_eq_nil_iff]
  exact each

/-! ### Blanks -/

/-- The words of a text hold all its characters but the blanks. -/
theorem flatten_wordsOf (cs : List Char) :
    (wordsOf cs).flatten = cs.filter fun c => !isBlank c := by
  fun_induction wordsOf cs with
  | case1 => rfl
  | case2 c cs blank ih => simp [blank, ih]
  | case3 c ink => simp [ink]
  | case4 c ink d ds blank ih => simp [ink, ih]
  | case5 c ink d ds inkNext empty ih =>
    rw [empty] at ih
    simp [ink, empty, ← ih]
  -- the character is put in front of the first word
  | case6 c ink d ds inkNext w ws split ih =>
    rw [split] at ih
    rw [List.filter_cons, ← ih]
    simp [ink, split]

/-- No mark goes with the blanks. -/
theorem filter_not_blank (blank : ∀ c, isBlank c → p c = false) (cs : List Char) :
    (cs.filter fun c => !isBlank c).filter p = cs.filter p := by
  rw [List.filter_filter]
  apply List.filter_congr
  intro c _
  by_cases h : isBlank c
  · simp [blank c h]
  · simp [h]

theorem filter_dropBlanks (blank : ∀ c, isBlank c → p c = false) (cs : List Char) :
    (dropBlanks cs).filter p = cs.filter p := by
  induction cs with
  | nil => rfl
  | cons c cs ih =>
    rw [dropBlanks, List.dropWhile_cons]
    split
    · next h => rw [List.filter_cons_of_neg (by simp [blank c h])]; exact ih
    · rfl

theorem filter_dropBlanksEnd (blank : ∀ c, isBlank c → p c = false) (cs : List Char) :
    (dropBlanksEnd cs).filter p = cs.filter p := by
  have reversed := filter_dropBlanks blank cs.reverse
  rw [dropBlanks] at reversed
  rw [dropBlanksEnd, List.filter_reverse, reversed, List.filter_reverse, List.reverse_reverse]

theorem marks_trim (blank : ∀ c, isBlank c → p c = false) : marks p (trim s) = marks p s := by
  rw [trim, marks_ofList, filter_dropBlanksEnd blank, filter_dropBlanks blank, marks]

theorem trim_of_blank (blank : isBlankText s) : trim s = "" := by
  have none : dropBlanks s.toList = [] := List.dropWhile_eq_nil_iff.mpr (List.all_eq_true.mp blank)
  rw [trim, none]
  rfl

theorem marks_trimStart (blank : ∀ c, isBlank c → p c = false) :
    marks p (trimStart s) = marks p s := by
  rw [trimStart, marks_ofList, filter_dropBlanks blank, marks]

/-- The words of a text hold its marks in order. -/
theorem marks_words (blank : ∀ c, isBlank c → p c = false) :
    (words s).flatMap (marks p) = marks p s := by
  calc
    (words s).flatMap (marks p) = (wordsOf s.toList).flatMap (List.filter p) := by
      rw [words, List.flatMap_map]
      simp only [marks_ofList]
    _ = ((wordsOf s.toList).flatten).filter p := by rw [List.filter_flatten, List.flatMap_def]
    _ = marks p s := by rw [flatten_wordsOf, filter_not_blank blank, marks]

/-! ### Identifiers and case -/

/-- What opens an identifier also continues one. -/
theorem continuesIdentifier_of_opens {c : Char} (opens : opensIdentifier c) :
    continuesIdentifier c := by
  rw [opensIdentifier, Bool.or_eq_true] at opens
  rw [continuesIdentifier, isLetterOrNumeral]
  rcases opens with letter | underscore
  · simp [letter]
  · simp [underscore]

theorem continuesIdentifier_of_mem {name : String} (identifier : isIdentifier name) :
    ∀ c ∈ name.toList, continuesIdentifier c := by
  rw [isIdentifier] at identifier
  cases chars : name.toList with
  | nil => simp
  | cons c cs =>
    rw [chars, isIdentifierChars, Bool.and_eq_true, List.all_eq_true] at identifier
    intro d member
    rcases List.mem_cons.mp member with rfl | member
    · exact continuesIdentifier_of_opens identifier.1
    · exact identifier.2 d member

theorem MarkClass.marks_identifier (marked : MarkClass p) {name : String}
    (identifier : isIdentifier name) : marks p name = [] :=
  marks_eq_nil_iff.mpr fun c member =>
    marked.not_identifier c (continuesIdentifier_of_mem identifier c member)

/-- Each run of lower case moves to characters from `a` on. -/
theorem lowerRuns_above :
    ∀ r ∈ lowerRuns, 97 ≤ (r.first : Int) + r.shift ∧
      ((r.last : Int) + r.shift < 0xD800 ∨
        0xDFFF < (r.first : Int) + r.shift ∧ (r.last : Int) + r.shift < 0x110000) := by
  decide +kernel

/-- The expansions of lower case hold characters from `a` on. -/
theorem lowerExpansions_above {e : Nat × List Nat} (member : e ∈ lowerExpansions) :
    ∀ d ∈ e.2.map Char.ofNat, 97 ≤ d.toNat := by
  have all : ∀ e ∈ lowerExpansions, ((e.2.map Char.ofNat).all fun d => 97 ≤ d.toNat) := by decide
  intro d image
  simpa using List.all_eq_true.mp (all e member) d image

/-- A run of lower case moves its code points to characters from `a` on. -/
theorem toNat_image_of_mem {r : CaseRun} (member : r ∈ lowerRuns) {n : Nat} (holds : r.holds n) :
    (Char.ofNat (n + r.shift).toNat).toNat = (n + r.shift).toNat ∧ 97 ≤ (n + r.shift).toNat := by
  obtain ⟨above, range⟩ := lowerRuns_above r member
  simp only [CaseRun.holds, Bool.and_eq_true, decide_eq_true_eq] at holds
  obtain ⟨⟨first, last⟩, -⟩ := holds
  -- the whole run lands on one side of the surrogates
  have valid : ((n : Int) + r.shift).toNat.isValidChar := by
    rw [Nat.isValidChar]
    omega
  constructor
  · rw [Char.ofNat, dif_pos valid]
    rfl
  · omega

/-- Lower case gives the character itself or one from `a` on. -/
theorem mem_lowerOf {c d : Char} (member : d ∈ lowerOf c) : d = c ∨ 97 ≤ d.toNat := by
  rw [lowerOf, mapCase] at member
  split at member
  · next e images found =>
    exact .inr (lowerExpansions_above (List.mem_of_find?_eq_some found) d member)
  · split at member
    · next r found =>
      have holds : r.holds c.toNat := by simpa using List.find?_some found
      obtain ⟨image, above⟩ := toNat_image_of_mem (List.mem_of_find?_eq_some found) holds
      rw [List.mem_singleton.mp member, image]
      exact .inr above
    · exact .inl (List.mem_singleton.mp member)

/-- A text without marks has none with its first letter in lower case. -/
theorem MarkClass.marks_lowerFirst (marked : MarkClass p) (lacks : marks p s = []) :
    marks p (lowerFirst s) = [] := by
  rw [lowerFirst, mapFirst]
  rw [marks_eq_nil_iff] at lacks
  cases chars : s.toList with
  | nil => rfl
  | cons c cs =>
    rw [chars] at lacks
    simp only [marks_ofList, List.filter_append, List.append_eq_nil_iff, List.filter_eq_nil_iff,
      Bool.not_eq_true]
    constructor
    · intro d member
      rcases mem_lowerOf member with rfl | above
      · exact lacks d List.mem_cons_self
      · by_contra marks
        have below := marked.below d (by simpa using marks)
        omega
    · intro d member
      exact lacks d (List.mem_cons_of_mem c member)

/-- Below `a`, lower case changes letters only. -/
theorem lowerOf_of_below {c : Char} (below : c.toNat < 97) (other : continuesIdentifier c = false) :
    lowerOf c = [c] := by
  have each : ∀ n < 97, continuesIdentifier (Char.ofNat n) ∨
      lowerOf (Char.ofNat n) = [Char.ofNat n] := by decide +kernel
  have image := each c.toNat below
  rw [Char.ofNat_toNat, other] at image
  exact image.resolve_left Bool.false_ne_true

/-- Lowering the first letter hides no mark. -/
theorem MarkClass.marks_of_lowerFirst (marked : MarkClass p) (lacks : marks p (lowerFirst s) = []) :
    marks p s = [] := by
  rw [lowerFirst, mapFirst] at lacks
  rw [marks_eq_nil_iff]
  cases chars : s.toList with
  | nil => simp
  | cons c cs =>
    simp only [chars, marks_ofList, List.filter_append, List.append_eq_nil_iff,
      List.filter_eq_nil_iff, Bool.not_eq_true] at lacks
    rw [List.forall_mem_cons]
    refine ⟨?_, lacks.2⟩
    -- a mark would be its own lower case
    by_contra mark
    rw [Bool.not_eq_false] at mark
    have other : continuesIdentifier c = false := by
      rw [Bool.eq_false_iff]
      intro continues
      rw [marked.not_identifier c continues] at mark
      cases mark
    rw [lowerOf_of_below (marked.below c mark) other] at lacks
    rw [lacks.1 c (List.mem_singleton.mpr rfl)] at mark
    cases mark

/-! ### Cuts -/

theorem eq_append_of_cutCharsAt {c : Char} {cs before after : List Char}
    (cut : cutCharsAt c cs = some (before, after)) : cs = before ++ c :: after := by
  induction cs generalizing before with
  | nil => simp [cutCharsAt] at cut
  | cons d ds ih =>
    rw [cutCharsAt] at cut
    split at cut
    · next same =>
      simp only [Option.some.injEq, Prod.mk.injEq] at cut
      simp [← cut.1, ← cut.2, same]
    · obtain ⟨⟨b, a⟩, found, parts⟩ := Option.map_eq_some_iff.mp cut
      obtain ⟨rfl, rfl⟩ := Prod.mk.inj parts
      rw [ih found, List.cons_append]

/-- A cut leaves the text before the character, the character, and the text behind it. -/
theorem eq_append_of_cutAt {c : Char} {before after : String}
    (cut : cutAt c s = some (before, after)) :
    s = before ++ String.singleton c ++ after := by
  obtain ⟨⟨b, a⟩, found, parts⟩ := Option.map_eq_some_iff.mp cut
  obtain ⟨rfl, rfl⟩ := Prod.mk.inj parts
  rw [← String.toList_inj, eq_append_of_cutCharsAt found]
  simp

/-- The pieces between separators hold all characters but the separators. -/
theorem mem_of_mem_splitChars {c d : Char} {cs piece : List Char}
    (isPiece : piece ∈ splitChars c cs) (member : d ∈ piece) : d ∈ cs := by
  fun_induction splitChars c cs generalizing piece with
  | case1 => simp_all
  | case2 ds ih =>
    rcases List.mem_cons.mp isPiece with rfl | isPiece
    · simp at member
    · exact List.mem_cons_of_mem _ (ih isPiece member)
  | case3 e ds _ empty ih =>
    simp_all
  | case4 e ds _ p ps split ih =>
    rw [split] at ih
    rcases List.mem_cons.mp isPiece with rfl | isPiece
    · rcases List.mem_cons.mp member with rfl | member
      · exact List.mem_cons_self
      · exact List.mem_cons_of_mem _ (ih List.mem_cons_self member)
    · exact List.mem_cons_of_mem _ (ih (List.mem_cons_of_mem _ isPiece) member)

theorem marks_splitAll_eq_nil {c : Char} (lacks : marks p s = []) :
    ∀ piece ∈ splitAll c s, marks p piece = [] := by
  intro piece member
  obtain ⟨chars, isPiece, rfl⟩ := List.mem_map.mp member
  rw [marks_eq_nil_iff] at lacks ⊢
  intro d member
  rw [String.toList_ofList] at member
  exact lacks d (mem_of_mem_splitChars isPiece member)

theorem marks_replaceEach_eq_nil {c : Char} {image : String} (lacks : marks p s = [])
    (lacksImage : marks p image = []) : marks p (replaceEach c image s) = [] := by
  rw [marks_eq_nil_iff] at lacks lacksImage ⊢
  rw [replaceEach, String.toList_ofList]
  intro d member
  obtain ⟨e, source, image⟩ := List.mem_flatMap.mp member
  split at image
  · exact lacksImage d image
  · rw [List.mem_singleton.mp image]
    exact lacks e source

end BoundQuery.Text
