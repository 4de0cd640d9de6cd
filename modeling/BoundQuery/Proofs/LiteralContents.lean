import BoundQuery.Proofs.SourceTokens

/-!
# Literals inside texts

The quotes of a text cut it into pieces, of which every second one is the content of a literal. The
quoted part of a text leaves out what stands between literals. It is put together from the quoted
parts of the parts of the text, and where all literals end it is as good as their contents.

## Main definitions

* `Text.opens`, `Text.leavesOpen`, texts with a literal that does not end
* `Text.literals`, the contents of the literals
* `Text.quoted`, the quoted part
* `Text.isSingleSpaced`, text whose blanks are single spaces

## Main results

* `Text.quoted_append` — the quoted part of a text from those of its parts
* `Text.literals_eq_iff` — equal contents and equal quoted parts
* `Text.length_wordsOf_append` — a part with more words makes a text with more words
-/

namespace BoundQuery.Text

def isQuote (c : Char) : Bool :=
  c == '\''

/-- Is a literal open behind the characters, given whether one is open before them? -/
def opens (inside : Bool) (cs : List Char) : Bool :=
  cs.foldl (fun b c => b != isQuote c) inside

/-- Does the text end inside a literal? -/
def leavesOpen (s : String) : Bool :=
  opens false s.toList

/-- Every second element, from the first one on or without it. -/
def everySecond {α : Type} : Bool → List α → List α
  | _, [] => []
  | true, a :: as => a :: everySecond false as
  | false, _ :: as => everySecond true as

/-- The contents of the literals of a text. A doubled quote ends one literal and opens the next. -/
def literals (s : String) : List String :=
  everySecond false (splitAll '\'' s)

/-- The quotes, and the characters inside literals. -/
def quoted : Bool → List Char → List Char
  | _, [] => []
  | inside, c :: cs =>
    if isQuote c || inside then c :: quoted (inside != isQuote c) cs else quoted inside cs

/-- Is each blank a space, with no blank behind it? -/
def isSingleSpaced : List Char → Bool
  | [] => true
  | c :: cs => (!isBlank c || (c == ' ' && !cs.head?.any isBlank)) && isSingleSpaced cs

variable {b : Bool} {c : Char} {cs ds es : List Char} {s t : String}

/-! ### Quoted parts -/

theorem opens_append (b : Bool) (cs ds : List Char) : opens b (cs ++ ds) = opens (opens b cs) ds :=
  List.foldl_append

theorem opens_of_unquoted (unquoted : ∀ c ∈ cs, isQuote c = false) : opens b cs = b := by
  induction cs with
  | nil => rfl
  | cons c cs ih =>
    rw [List.forall_mem_cons] at unquoted
    rw [opens, List.foldl_cons, unquoted.1, Bool.bne_false, ← opens, ih unquoted.2]

/-- Only the quotes matter. -/
theorem opens_filter (b : Bool) (cs : List Char) : opens b (cs.filter isQuote) = opens b cs := by
  induction cs generalizing b with
  | nil => rfl
  | cons c cs ih =>
    cases quote : isQuote c with
    | true =>
      rw [List.filter_cons_of_pos quote]
      exact ih _
    | false =>
      rw [List.filter_cons_of_neg (by simp [quote]), ih]
      simp [opens, quote]

theorem quoted_quote (b : Bool) (cs : List Char) :
    quoted b ('\'' :: cs) = '\'' :: quoted (!b) cs := by
  cases b <;> rfl

theorem quoted_other (other : isQuote c = false) (b : Bool) (cs : List Char) :
    quoted b (c :: cs) = if b then c :: quoted b cs else quoted b cs := by
  rw [quoted, other, Bool.false_or, Bool.bne_false]

theorem quoted_append (b : Bool) (cs ds : List Char) :
    quoted b (cs ++ ds) = quoted b cs ++ quoted (opens b cs) ds := by
  induction cs generalizing b with
  | nil => rfl
  | cons c cs ih =>
    rw [List.cons_append, quoted, quoted, ih, ih]
    split
    · rfl
    · next outside =>
      simp only [Bool.or_eq_true, not_or, Bool.not_eq_true] at outside
      simp [opens, outside]

theorem quoted_of_unquoted (unquoted : ∀ c ∈ cs, isQuote c = false) :
    quoted b cs = if b then cs else [] := by
  induction cs with
  | nil => simp [quoted]
  | cons c cs ih =>
    rw [List.forall_mem_cons] at unquoted
    rw [quoted_other unquoted.1, ih unquoted.2]
    split <;> rfl

theorem markClass_quote : MarkClass isQuote :=
  .single (by decide) (by decide) (by decide)

theorem quoted_of_all_blank (blank : cs.all isBlank) : quoted b cs = if b then cs else [] :=
  quoted_of_unquoted fun c member =>
    markClass_quote.not_blank c (List.all_eq_true.mp blank c member)

theorem opens_of_all_blank (blank : cs.all isBlank) : opens b cs = b :=
  opens_of_unquoted fun c member =>
    markClass_quote.not_blank c (List.all_eq_true.mp blank c member)

theorem quoted_subset (b : Bool) (cs : List Char) : quoted b cs ⊆ cs := by
  induction cs generalizing b with
  | nil => exact List.Subset.refl _
  | cons c cs ih =>
    rw [quoted]
    split
    · exact List.cons_subset_cons c (ih _)
    · exact List.subset_cons_of_subset c (ih _)

/-- A last character behind which a literal is open belongs to the quoted part. -/
theorem quoted_concat (isOpen : opens b (cs ++ [c])) :
    quoted b (cs ++ [c]) = quoted b cs ++ [c] := by
  have kept : isQuote c || opens b cs := by
    rw [opens_append] at isOpen
    cases quote : isQuote c with
    | true => rfl
    | false => simpa [opens, quote] using isOpen
  rw [quoted_append, quoted, if_pos kept]
  rfl

/-- The quoted part starts with a quote, unless a literal is open before the text. -/
theorem head?_quoted (cs : List Char) :
    quoted false cs = [] ∨ (quoted false cs).head? = some '\'' := by
  induction cs with
  | nil => exact .inl rfl
  | cons c cs ih =>
    rw [quoted, Bool.or_false]
    split
    · next quote =>
      rw [beq_iff_eq.mp quote]
      exact .inr rfl
    · exact ih

/-! ### Contents -/

theorem everySecond_map {α β : Type} (f : α → β) (b : Bool) (as : List α) :
    everySecond b (as.map f) = (everySecond b as).map f := by
  induction as generalizing b with
  | nil => cases b <;> rfl
  | cons a as ih => cases b <;> simp [everySecond, ih]

theorem splitChars_quote (cs : List Char) :
    splitChars '\'' ('\'' :: cs) = [] :: splitChars '\'' cs :=
  if_pos rfl

/-- A character that is no quote belongs to the first piece. -/
theorem splitChars_other (other : isQuote c = false) (cs : List Char) :
    ∃ p ps, splitChars '\'' cs = p :: ps ∧ splitChars '\'' (c :: cs) = (c :: p) :: ps := by
  have given : splitChars '\'' cs ≠ [] := by
    fun_cases splitChars '\'' cs <;> simp_all
  obtain ⟨p, ps, pieces⟩ := List.exists_cons_of_ne_nil given
  have differs : c ≠ '\'' := by
    rintro rfl
    cases other
  exact ⟨p, ps, pieces, by rw [splitChars, if_neg differs, pieces]⟩

/-- The contents are read from the quoted part. -/
theorem everySecond_quoted (b : Bool) (cs : List Char) :
    everySecond b (splitChars '\'' (quoted b cs)) = everySecond b (splitChars '\'' cs) := by
  induction cs generalizing b with
  | nil => rfl
  | cons c cs ih =>
    cases quote : isQuote c with
    | true =>
      obtain rfl : c = '\'' := beq_iff_eq.mp quote
      rw [quoted_quote, splitChars_quote, splitChars_quote]
      cases b with
      | true => exact congrArg (List.cons []) (ih false)
      | false => exact ih true
    | false =>
      obtain ⟨p, ps, pieces, more⟩ := splitChars_other quote cs
      have rest := ih b
      rw [pieces] at rest
      rw [more, quoted_other quote]
      cases b with
      | true =>
        obtain ⟨q, qs, inner, withFirst⟩ := splitChars_other quote (quoted true cs)
        rw [if_pos rfl, withFirst]
        rw [inner] at rest
        simp only [everySecond, List.cons.injEq, true_and] at rest ⊢
        exact rest
      | false => exact rest

/-- A literal with its quotes. -/
def enclosed (content : List Char) : List Char :=
  '\'' :: content ++ ['\'']

/-- The quoted part is made of the literals, if all of them end. -/
theorem quoted_eq_flatMap (closed : opens b cs = false) :
    (if b then ['\''] else []) ++ quoted b cs =
      (everySecond b (splitChars '\'' cs)).flatMap enclosed := by
  induction cs generalizing b with
  | nil =>
    obtain rfl : b = false := closed
    rfl
  | cons c cs ih =>
    cases quote : isQuote c with
    | true =>
      obtain rfl : c = '\'' := beq_iff_eq.mp quote
      rw [quoted_quote, splitChars_quote]
      cases b with
      | true => exact congrArg (['\'', '\''] ++ ·) (ih (b := false) closed)
      | false => exact ih (b := true) closed
    | false =>
      obtain ⟨p, ps, pieces, more⟩ := splitChars_other quote cs
      have still : opens b cs = false := by
        rwa [opens, List.foldl_cons, quote, Bool.bne_false] at closed
      have rest := ih still
      rw [pieces] at rest
      rw [more, quoted_other quote]
      cases b with
      | true =>
        simp only [if_true, everySecond, List.flatMap_cons, enclosed, List.cons_append,
          List.nil_append, List.cons.injEq, true_and] at rest ⊢
        exact rest
      | false => exact rest

/-- Where all literals end, equal contents are equal quoted parts. -/
theorem literals_eq_iff (closed : leavesOpen s = false) (closed' : leavesOpen t = false) :
    literals s = literals t ↔ quoted false s.toList = quoted false t.toList := by
  have injective : Function.Injective (List.map String.ofList) :=
    List.map_injective_iff.mpr fun _ _ => String.ofList_injective
  rw [literals, literals, splitAll, splitAll, everySecond_map, everySecond_map, injective.eq_iff]
  constructor
  · intro same
    have left := quoted_eq_flatMap closed
    rw [same, ← quoted_eq_flatMap closed'] at left
    exact left
  · intro same
    rw [← everySecond_quoted, same, everySecond_quoted]

/-! ### Single spaces -/

theorem isSingleSpaced_append (solid : ∀ c ∈ cs, isBlank c = false) (ds : List Char) :
    isSingleSpaced (cs ++ ds) = isSingleSpaced ds := by
  induction cs with
  | nil => rfl
  | cons c cs ih =>
    rw [List.forall_mem_cons] at solid
    rw [List.cons_append, isSingleSpaced, solid.1, ih solid.2]
    rfl

theorem isSingleSpaced_quote (cs ds : List Char) :
    isSingleSpaced (cs ++ '\'' :: ds) = (isSingleSpaced cs && isSingleSpaced ds) := by
  induction cs with
  | nil => rfl
  | cons c cs ih =>
    have next : (cs ++ '\'' :: ds).head?.any isBlank = cs.head?.any isBlank := by
      cases cs <;> rfl
    rw [List.cons_append, isSingleSpaced, isSingleSpaced, next, ih, Bool.and_assoc]

/-- Blanks in front of other text are one space. -/
theorem isSingleSpaced_blanks (blank : cs.all isBlank) (given : cs ≠ []) (starts : startsInked ds) :
    isSingleSpaced (cs ++ ds) ↔ cs = [' '] ∧ isSingleSpaced ds := by
  obtain ⟨c, rest, rfl⟩ := List.exists_cons_of_ne_nil given
  rw [List.all_cons, Bool.and_eq_true] at blank
  rw [List.cons_append, isSingleSpaced, blank.1, Bool.not_true, Bool.false_or]
  cases rest with
  | nil =>
    have ink : ds.head?.any isBlank = false := by
      cases ds with
      | nil => rfl
      | cons d ds => simpa [startsInked] using starts
    rw [List.nil_append, ink]
    simp
  | cons d rest =>
    have next : (d :: rest ++ ds).head?.any isBlank = true :=
      (List.all_eq_true.mp blank.2) d List.mem_cons_self
    rw [next]
    simp

/-- The quoted part is single-spaced when the contents of the literals are. -/
theorem isSingleSpaced_quoted (closed : leavesOpen s = false) :
    isSingleSpaced (quoted false s.toList) ↔
      ∀ content ∈ literals s, isSingleSpaced content.toList := by
  have parts := quoted_eq_flatMap closed
  rw [if_neg Bool.false_ne_true, List.nil_append] at parts
  rw [parts, literals, splitAll, everySecond_map, List.forall_mem_map]
  simp only [String.toList_ofList]
  generalize everySecond false (splitChars '\'' s.toList) = contents
  clear parts
  induction contents with
  | nil => simp [isSingleSpaced]
  | cons p ps ih =>
    have first : enclosed p ++ ps.flatMap enclosed =
        ['\''] ++ (p ++ '\'' :: ps.flatMap enclosed) := by
      simp [enclosed]
    have quote : ∀ c ∈ ['\''], isBlank c = false := List.forall_mem_singleton.mpr rfl
    rw [List.flatMap_cons, first, isSingleSpaced_append quote, isSingleSpaced_quote,
      Bool.and_eq_true, List.forall_mem_cons]
    exact and_congr_right fun _ => ih

/-! ### Counting words -/

/-- A character opens a word where it is no blank and the text behind it starts with one. -/
theorem length_wordsOf_cons (c : Char) (cs : List Char) :
    (wordsOf (c :: cs)).length =
      (wordsOf cs).length + if !isBlank c && startsBlank cs then 1 else 0 := by
  cases blank : isBlank c with
  | true => rw [wordsOf_blank blank]; rfl
  | false =>
    cases cut : startsBlank cs with
    | true => rw [wordsOf_last blank cut]; rfl
    | false =>
      cases cs with
      | nil => cases cut
      | cons d ds =>
        obtain ⟨w, ws, first⟩ : ∃ w ws, wordsOf (d :: ds) = w :: ws :=
          List.exists_cons_of_ne_nil (wordsOf_ne_nil cut)
        rw [wordsOf_joined blank cut first, first]
        rfl

/-- A part with more words makes a text with more words. -/
theorem length_wordsOf_append (fewer : (wordsOf ds).length ≤ (wordsOf es).length)
    (same : startsBlank ds = startsBlank es) (cs : List Char) :
    (wordsOf (cs ++ ds)).length ≤ (wordsOf (cs ++ es)).length ∧
      startsBlank (cs ++ ds) = startsBlank (cs ++ es) := by
  induction cs with
  | nil => exact ⟨fewer, same⟩
  | cons c cs ih =>
    rw [List.cons_append, List.cons_append, length_wordsOf_cons, length_wordsOf_cons, ih.2]
    exact ⟨Nat.add_le_add_right ih.1 _, rfl⟩

/-- A trimmed text of one word is this word. -/
theorem eq_of_wordsOf {w : List Char} (starts : startsInked cs) (ends : startsInked cs.reverse)
    (single : wordsOf cs = [w]) : cs = w := by
  have whole : cs.takeWhile (fun c => !isBlank c) ++ cs.dropWhile (fun c => !isBlank c) = cs :=
    List.takeWhile_append_dropWhile
  have given : cs.takeWhile (fun c => !isBlank c) ≠ [] := by
    cases cs with
    | nil => cases starts
    | cons c cs =>
      rw [List.takeWhile_cons_of_pos (p := fun c => !isBlank c) starts]
      exact List.cons_ne_nil _ _
  rw [← whole, wordsOf_append (startsBlank_dropWhile cs), wordsOf_of_solid given
    fun c member => by simpa using List.mem_takeWhile_imp member] at single
  rw [List.singleton_append, List.cons.injEq] at single
  obtain ⟨first, none⟩ := single
  have blank : ∀ c ∈ cs.dropWhile fun c => !isBlank c, isBlank c := by
    have kept := flatten_wordsOf (cs.dropWhile fun c => !isBlank c)
    rw [none, List.flatten_nil, eq_comm, List.filter_eq_nil_iff] at kept
    simpa using kept
  -- blanks behind the word would stand last
  rcases List.eq_nil_or_concat' (cs.dropWhile fun c => !isBlank c) with empty | ⟨front, c, rest⟩
  · rw [empty, List.append_nil] at whole
    rw [← whole, ← first]
  · have last := blank c (by rw [rest]; simp)
    rw [← whole, rest] at ends
    simp [startsInked, last] at ends

end BoundQuery.Text
