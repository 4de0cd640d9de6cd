import BoundQuery.Proofs.SourceTokens

/-!
# Blanks around commas

Two ways lead from a source to its parts. Among its tokens commas stand alone; its words end at
blanks only, so a comma may stick to its neighbours. Blanks next to a comma make no difference to
the tokens. Words do depend on them; but where a blank, a comma or the end follows each comma, a
word is a token with commas behind it, and the words give back the tokens.

## Main definitions

* `Text.tight`, a text without the blanks around its commas
* `Text.isSpaced`, texts in which no comma sticks to what follows it
* `Source.dropFrom`, tokens without a leading FROM

## Main results

* `Text.tightened_append` — texts that differ in blanks around commas may replace each other
* `Source.tokens_of_tight` — blanks around commas make no difference to the tokens
* `Source.tokens_eq_flatMap` — the tokens of a text are those of its words
* `Source.flatMap_tokens_dropFrom` — words and tokens without a leading FROM
-/

namespace BoundQuery

namespace Text

/-! ### Tight text -/

/-- A character in front of a text, without the blanks between a comma and its neighbours. -/
def tighten (c : Char) (cs : List Char) : List Char :=
  if c = ',' then ',' :: dropBlanks cs
  else if isBlank c ∧ cs.head? = some ',' then cs
  else c :: cs

/-- The characters without the blanks around commas. -/
def tightened (cs : List Char) : List Char :=
  cs.foldr tighten []

/-- The text without the blanks around its commas. -/
def tight (s : String) : String :=
  String.ofList (tightened s.toList)

/-- Is each comma followed by a blank, by another comma or by the end? -/
def isSpaced : List Char → Bool
  | [] => true
  | c :: cs => (c != ',' || startsBlank cs || cs.head? == some ',') && isSpaced cs

variable {c : Char} {cs ds us vs : List Char}

theorem tight_eq_iff {s t : String} :
    tight s = tight t ↔ tightened s.toList = tightened t.toList := by
  rw [tight, tight, String.ofList_inj]

theorem tighten_comma : tighten ',' cs = ',' :: dropBlanks cs :=
  if_pos rfl

theorem tighten_blank (blank : isBlank c) (head : cs.head? = some ',') : tighten c cs = cs := by
  rw [tighten, if_neg, if_pos ⟨blank, head⟩]
  rintro rfl
  cases blank

theorem tighten_other (other : c ≠ ',') (apart : ¬ (isBlank c ∧ cs.head? = some ',')) :
    tighten c cs = c :: cs := by
  rw [tighten, if_neg other, if_neg apart]

theorem dropBlanks_tighten (blank : isBlank c) : dropBlanks (tighten c cs) = dropBlanks cs := by
  by_cases head : cs.head? = some ','
  · rw [tighten_blank blank head]
  · rw [tighten_other (by rintro rfl; cases blank) fun both => head both.2, dropBlanks,
      List.dropWhile_cons_of_pos blank, dropBlanks]

theorem dropBlanks_foldr (tail : List Char) (cs : List Char) :
    dropBlanks ((dropBlanks cs).foldr tighten tail) = dropBlanks (cs.foldr tighten tail) := by
  induction cs with
  | nil => rfl
  | cons c cs ih =>
    by_cases blank : isBlank c
    · rw [dropBlanks.eq_def (c :: cs), List.dropWhile_cons_of_pos blank, List.foldr_cons,
        dropBlanks_tighten blank]
      exact ih
    · rw [dropBlanks.eq_def (c :: cs), List.dropWhile_cons_of_neg blank]

/-- In front of other text, tight text does what the text itself does. -/
theorem foldr_tightened (cs tail : List Char) :
    (tightened cs).foldr tighten tail = cs.foldr tighten tail := by
  induction cs with
  | nil => rfl
  | cons c cs ih =>
    rw [tightened, List.foldr_cons, ← tightened, List.foldr_cons]
    by_cases comma : c = ','
    · rw [comma, tighten_comma, tighten_comma, List.foldr_cons, tighten_comma, dropBlanks_foldr, ih]
    · by_cases both : isBlank c ∧ (tightened cs).head? = some ','
      · -- the comma that swallows the blank is still there in front of the other text
        obtain ⟨rest, starts⟩ := List.head?_eq_some_iff.mp both.2
        have head : (cs.foldr tighten tail).head? = some ',' := by
          rw [← ih, starts, List.foldr_cons, tighten_comma]
          rfl
        rw [tighten_blank both.1 both.2, tighten_blank both.1 head, ih]
      · rw [tighten_other comma both, List.foldr_cons, ih]

/-- Texts that differ in blanks around commas only may replace each other in a longer text. -/
theorem tightened_append (left : tightened cs = tightened ds)
    (right : tightened us = tightened vs) : tightened (cs ++ us) = tightened (ds ++ vs) := by
  have parts : ∀ xs ys, tightened (xs ++ ys) = (tightened xs).foldr tighten (tightened ys) := by
    intro xs ys
    rw [tightened, List.foldr_append, ← tightened, foldr_tightened]
  rw [parts, parts, left, right]

theorem tight_append {s t x y : String} (left : tight s = tight t) (right : tight x = tight y) :
    tight (s ++ x) = tight (t ++ y) := by
  rw [tight_eq_iff] at left right ⊢
  rw [String.toList_append, String.toList_append, tightened_append left right]

/-- A blank in front is kept, or there was a comma. -/
theorem tightened_of_blank_cons (same : tightened (' ' :: cs) = tightened (' ' :: ds)) :
    tightened cs = tightened ds := by
  have blank : isBlank ' ' := rfl
  rw [tightened, tightened, List.foldr_cons, List.foldr_cons, ← tightened, ← tightened] at same
  by_cases head : (tightened cs).head? = some ','
  · rw [tighten_blank blank head] at same
    by_cases head' : (tightened ds).head? = some ','
    · rwa [tighten_blank blank head'] at same
    · rw [tighten_other (by decide) fun both => head' both.2] at same
      rw [same] at head
      cases head
  · rw [tighten_other (by decide) fun both => head both.2] at same
    by_cases head' : (tightened ds).head? = some ','
    · rw [tighten_blank blank head'] at same
      rw [← same] at head'
      cases head'
    · rw [tighten_other (by decide) fun both => head' both.2] at same
      exact (List.cons.inj same).2

/-! ### Words -/

/-- A character in front sees the first word and whether it starts at once. -/
theorem wordsOf_cons (c : Char) (words : wordsOf cs = wordsOf ds)
    (starts : startsBlank cs = startsBlank ds) : wordsOf (c :: cs) = wordsOf (c :: ds) := by
  by_cases blank : isBlank c
  · rw [wordsOf_blank blank, wordsOf_blank blank, words]
  · rw [Bool.not_eq_true] at blank
    by_cases cut : startsBlank cs
    · rw [wordsOf_last blank cut, wordsOf_last blank (starts ▸ cut), words]
    · cases cs with
      | nil => exact absurd rfl cut
      | cons d us =>
        cases ds with
        | nil => exact absurd starts cut
        | cons e vs =>
          have ink : isBlank d = false := by simpa [startsBlank] using cut
          have ink' : isBlank e = false := by rw [← ink]; exact starts.symm
          have some : wordsOf (d :: us) ≠ [] := wordsOf_ne_nil ink
          obtain ⟨w, ws, first⟩ := List.exists_cons_of_ne_nil some
          rw [wordsOf_joined blank ink first, wordsOf_joined blank ink' (words ▸ first)]

/-- What is left without leading blanks does not start with one. -/
theorem not_isBlank_of_dropBlanks {d : Char} (starts : dropBlanks cs = d :: ds) :
    isBlank d = false := by
  have stops := List.head?_dropWhile_not isBlank cs
  rw [← dropBlanks, starts] at stops
  simpa using stops

/-- A text is blank, or it has a first word with a text behind it that starts with a blank. -/
theorem words_induction {P : List Char → Prop} (blank : ∀ cs, cs.all isBlank → P cs)
    (word : ∀ blanks w rest, blanks.all isBlank → w ≠ [] → (∀ c ∈ w, isBlank c = false) →
      startsBlank rest → P rest → P (blanks ++ w ++ rest)) (cs : List Char) : P cs := by
  -- the induction is on the length, since a word is taken off at once
  induction length : cs.length using Nat.strongRecOn generalizing cs with
  | _ n ih =>
    have outer : cs.takeWhile isBlank ++ dropBlanks cs = cs := List.takeWhile_append_dropWhile
    have blanks : (cs.takeWhile isBlank).all isBlank := List.all_takeWhile
    have inner : ((dropBlanks cs).takeWhile fun c => !isBlank c) ++
        ((dropBlanks cs).dropWhile fun c => !isBlank c) = dropBlanks cs :=
      List.takeWhile_append_dropWhile
    cases starts : dropBlanks cs with
    | nil =>
      rw [starts, List.append_nil] at outer
      exact blank cs (outer ▸ blanks)
    | cons d ds =>
      have ink : isBlank d = false := not_isBlank_of_dropBlanks starts
      have first : (dropBlanks cs).takeWhile (fun c => !isBlank c) =
          d :: ds.takeWhile fun c => !isBlank c := by
        rw [starts, List.takeWhile_cons_of_pos (by simp [ink])]
      rw [← outer, ← inner, ← List.append_assoc]
      refine word _ _ _ blanks (by simp [first]) ?_ (startsBlank_dropWhile _) (ih _ ?_ _ rfl)
      · intro c member
        simpa using List.mem_takeWhile_imp member
      · have total := congrArg List.length outer
        have part := congrArg List.length inner
        rw [List.length_append] at total part
        rw [first, List.length_cons] at part
        omega

/-! ### Spaced text -/

theorem isSpaced_right (spaced : isSpaced (cs ++ ds)) : isSpaced ds := by
  induction cs with
  | nil => exact spaced
  | cons c cs ih =>
    rw [List.cons_append, isSpaced, Bool.and_eq_true] at spaced
    exact ih spaced.2

theorem isSpaced_left (spaced : isSpaced (cs ++ ds)) : isSpaced cs := by
  induction cs with
  | nil => rfl
  | cons c cs ih =>
    rw [List.cons_append, isSpaced, Bool.and_eq_true] at spaced
    rw [isSpaced, ih spaced.2, Bool.and_true]
    cases cs with
    | nil => simp [startsBlank]
    | cons d cs => exact spaced.1

theorem isSpaced_of_mem_wordsOf (spaced : isSpaced cs) : ∀ w ∈ wordsOf cs, isSpaced w := by
  induction cs using words_induction with
  | blank cs blank =>
    rw [wordsOf_of_all_blank blank]
    simp
  | word blanks w rest blank given solid cut ih =>
    rw [List.append_assoc] at spaced ⊢
    have later := isSpaced_right spaced
    rw [wordsOf_blanks_append blank, wordsOf_append cut, wordsOf_of_solid given solid,
      List.singleton_append, List.forall_mem_cons]
    exact ⟨isSpaced_left later, ih (isSpaced_right later)⟩

/-- The words of a spaced text are spaced. -/
theorem isSpaced_of_mem_words {s w : String} (spaced : isSpaced s.toList) (member : w ∈ words s) :
    isSpaced w.toList := by
  obtain ⟨chars, isWord, rfl⟩ := List.mem_map.mp member
  rw [String.toList_ofList]
  exact isSpaced_of_mem_wordsOf spaced chars isWord

/-- A spaced word has its commas at its end. -/
theorem exists_of_isSpaced (solid : ∀ c ∈ cs, isBlank c = false) (spaced : isSpaced cs) :
    ∃ us k, cs = us ++ List.replicate k ',' ∧ ',' ∉ us := by
  induction cs with
  | nil => exact ⟨[], 0, rfl, List.not_mem_nil⟩
  | cons c cs ih =>
    rw [List.forall_mem_cons] at solid
    rw [isSpaced, Bool.and_eq_true] at spaced
    obtain ⟨us, k, rfl, free⟩ := ih solid.2 spaced.2
    by_cases comma : c = ','
    · subst comma
      cases us with
      | nil => exact ⟨[], k + 1, rfl, List.not_mem_nil⟩
      | cons u us =>
        -- what follows the comma is neither blank nor a comma
        rw [List.mem_cons, not_or] at free
        have ink := solid.2 u List.mem_cons_self
        have touching := spaced.1
        simp [startsBlank, ink, Ne.symm free.1] at touching
    · exact ⟨c :: us, k, rfl, by simp [Ne.symm comma, free]⟩

end Text

namespace Source

open Text

/-! ### Tokens -/

theorem wordsOf_loosened_comma (cs : List Char) :
    wordsOf (loosened (',' :: cs)) = [','] :: wordsOf (loosened cs) := by
  have parts : loosened (',' :: cs) = ' ' :: ',' :: ' ' :: loosened cs := rfl
  rw [parts, wordsOf_blank rfl, wordsOf_last rfl rfl, wordsOf_blank rfl]

theorem wordsOf_loosened_commas (k : Nat) :
    wordsOf (loosened (List.replicate k ',')) = List.replicate k [','] := by
  induction k with
  | zero => rfl
  | succ k ih => rw [List.replicate_succ, wordsOf_loosened_comma, ih, List.replicate_succ]

theorem startsBlank_loosened_commas (k : Nat) : startsBlank (loosened (List.replicate k ',')) := by
  cases k with
  | zero => rfl
  | succ k => rfl

theorem loosened_cons {c : Char} (other : c ≠ ',') (cs : List Char) :
    loosened (c :: cs) = c :: loosened cs := by
  rw [loosened, List.flatMap_cons, if_neg other]
  rfl

/-- Tight text has the words of the text, with commas of their own, and starts as it does. -/
theorem wordsOf_loosened_tightened (cs : List Char) :
    wordsOf (loosened (tightened cs)) = wordsOf (loosened cs) ∧
      startsBlank (loosened (tightened cs)) = startsBlank (loosened cs) := by
  induction cs with
  | nil => exact ⟨rfl, rfl⟩
  | cons c cs ih =>
    obtain ⟨words, starts⟩ := ih
    rw [tightened, List.foldr_cons, ← tightened]
    by_cases comma : c = ','
    · subst comma
      rw [tighten_comma, wordsOf_loosened_comma, wordsOf_loosened_comma, loosened_dropBlanks, words]
      exact ⟨rfl, rfl⟩
    · rw [loosened_cons comma cs]
      by_cases both : isBlank c ∧ (tightened cs).head? = some ','
      · -- a blank is dropped in front of a comma, which brings one of its own
        rw [tighten_blank both.1 both.2, wordsOf_blank both.1, words,
          startsBlank_loosened (.inr both.2)]
        exact ⟨rfl, both.1.symm⟩
      · rw [tighten_other comma both, loosened_cons comma]
        exact ⟨wordsOf_cons c words starts, rfl⟩

/-- Blanks around commas make no difference to the tokens. -/
theorem tokens_of_tight {a b : String} (same : tight a = tight b) : tokens a = tokens b := by
  rw [tokens_eq, tokens_eq, ← (wordsOf_loosened_tightened a.toList).1, tight_eq_iff.mp same,
    (wordsOf_loosened_tightened b.toList).1]

theorem wordsOf_loosened_eq_flatMap (cs : List Char) :
    wordsOf (loosened cs) = (wordsOf cs).flatMap fun w => wordsOf (loosened w) := by
  induction cs using words_induction with
  | blank cs blank => rw [loosened_of_all_blank blank, wordsOf_of_all_blank blank, List.flatMap_nil]
  | word blanks w rest blank given solid cut ih =>
    rw [List.append_assoc, loosened_append, loosened_append, loosened_of_all_blank blank,
      wordsOf_blanks_append blank, wordsOf_blanks_append blank,
      wordsOf_append (startsBlank_loosened (.inl cut)), wordsOf_append cut,
      wordsOf_of_solid given solid, ih, List.singleton_append, List.flatMap_cons]

/-- The tokens of a text are those of its words. -/
theorem tokens_eq_flatMap (s : String) : tokens s = (words s).flatMap tokens := by
  have each : ∀ w, tokens (String.ofList w) = (wordsOf (loosened w)).map String.ofList := by
    intro w
    rw [tokens_eq, String.toList_ofList]
  rw [tokens_eq, wordsOf_loosened_eq_flatMap, List.map_flatMap, words, List.flatMap_map]
  simp only [each]

/-- A word without commas is one token. -/
theorem tokens_of_comma_free {w : String} (given : w ≠ "") (solid : Solid w)
    (free : ',' ∉ w.toList) : tokens w = [w] := by
  rw [tokens_eq, loosened_of_comma_free fun c member comma => free (comma ▸ member),
    wordsOf_of_solid (by simpa using given) solid, List.map_singleton, String.ofList_toList]

theorem comma_mem_tokens {w : String} (member : ',' ∈ w.toList) : "," ∈ tokens w := by
  obtain ⟨before, after, whole⟩ := List.append_of_mem member
  have comma : [','] ∈ wordsOf (loosened w.toList) := by
    have cut : startsBlank (loosened (',' :: after)) := rfl
    rw [whole, loosened_append, wordsOf_append cut, wordsOf_loosened_comma]
    exact List.mem_append_right _ List.mem_cons_self
  rw [tokens_eq]
  exact List.mem_map_of_mem comma

theorem tokens_ne_nil {w : String} (given : w ≠ "") (solid : Solid w) : tokens w ≠ [] := by
  by_cases comma : ',' ∈ w.toList
  · exact List.ne_nil_of_mem (comma_mem_tokens comma)
  · rw [tokens_of_comma_free given solid comma]
    exact List.cons_ne_nil _ _

/-- A spaced word is a token with commas behind it, or commas alone. -/
theorem tokens_of_isSpaced {w : String} (solid : Solid w) (spaced : isSpaced w.toList) :
    ∃ u k, w = u ++ String.ofList (List.replicate k ',') ∧ ',' ∉ u.toList ∧ Solid u ∧
      tokens w = (if u = "" then [] else [u]) ++ List.replicate k "," := by
  obtain ⟨us, k, whole, free⟩ := exists_of_isSpaced solid spaced
  have solidPart : ∀ c ∈ us, isBlank c = false := fun c member =>
    solid c (whole ▸ List.mem_append_left _ member)
  refine ⟨String.ofList us, k, ?_, by simpa using free, by simpa [Solid] using solidPart, ?_⟩
  · rw [← String.toList_inj, whole]
    simp
  · have part : wordsOf us = if us = [] then [] else [us] := by
      split
      · next none => rw [none]; rfl
      · next given => exact wordsOf_of_solid given solidPart
    rw [tokens_eq, whole, loosened_append, loosened_of_comma_free fun c member comma =>
      free (comma ▸ member), wordsOf_append (startsBlank_loosened_commas k),
      wordsOf_loosened_commas, part, List.map_append, List.map_replicate]
    by_cases none : us = []
    · simp [none]
    · simp [none]

/-! ### The leading FROM -/

/-- The tokens without a leading FROM, in any case. -/
def dropFrom : List String → List String
  | [] => []
  | t :: ts => if sameIgnoringCase t "FROM" then ts else t :: ts

/-- Does a comma follow a leading FROM? -/
def commaAfterFrom : List String → Bool
  | t :: u :: _ => sameIgnoringCase t "FROM" && u == ","
  | _ => false

theorem mem_of_mem_dropFrom {ts : List String} {t : String} (member : t ∈ dropFrom ts) :
    t ∈ ts := by
  cases ts with
  | nil => cases member
  | cons u ts =>
    rw [dropFrom] at member
    split at member
    · exact List.mem_cons_of_mem u member
    · exact member

theorem words_dropFrom (s : String) : words (withoutFrom s) = dropFrom (words s) := by
  rw [words_withoutFrom]
  cases words s with
  | nil => rfl
  | cons w ws => rfl

theorem comma_free_of_from {w : String} (isFrom : sameIgnoringCase w "FROM") : ',' ∉ w.toList := by
  intro member
  rw [sameIgnoringCase, beq_iff_eq, asciiUpper] at isFrom
  have upper : Char.toUpper ',' ∈ asciiUpper "FROM" := isFrom ▸ List.mem_map_of_mem member
  exact absurd upper (by decide)

/-- A word that is not FROM but has it for its first token has a comma behind it. -/
theorem comma_mem_of_from {w t : String} {ts : List String} (given : w ≠ "") (solid : Solid w)
    (tokenized : tokens w = t :: ts) (isFrom : sameIgnoringCase t "FROM")
    (other : sameIgnoringCase w "FROM" = false) : "," ∈ ts := by
  have comma : ',' ∈ w.toList := by
    by_contra free
    rw [tokens_of_comma_free given solid free] at tokenized
    rw [(List.cons.inj tokenized).1, isFrom] at other
    cases other
  have member := comma_mem_tokens comma
  rw [tokenized] at member
  refine (List.mem_cons.mp member).resolve_left ?_
  rintro rfl
  exact absurd isFrom (by decide)

/-- A text without FROM does not start with a blank. -/
theorem not_isBlank_of_withoutFrom {s : String} {c : Char} {cs : List Char}
    (starts : (withoutFrom s).toList = c :: cs) : isBlank c = false := by
  obtain ⟨first, rest, -, -, -, -, stripped⟩ := withoutFrom_eq s
  rw [stripped] at starts
  split at starts
  · rw [trimStart, String.toList_ofList, String.toList_ofList] at starts
    exact not_isBlank_of_dropBlanks starts
  · exact not_isBlank_of_trim starts

theorem withoutFrom_eq_empty_iff_words (s : String) :
    withoutFrom s = "" ↔ words (withoutFrom s) = [] := by
  constructor
  · intro empty
    rw [empty]
    rfl
  · intro none
    by_contra given
    obtain ⟨c, cs, starts⟩ :=
      List.exists_cons_of_ne_nil (show (withoutFrom s).toList ≠ [] by simpa using given)
    rw [words, starts, List.map_eq_nil_iff] at none
    exact wordsOf_ne_nil (not_isBlank_of_withoutFrom starts) none

/-- Nothing is left of a text without FROM when nothing is left of its tokens. -/
theorem withoutFrom_eq_empty_iff (s : String) : withoutFrom s = "" ↔ dropFrom (tokens s) = [] := by
  rw [withoutFrom_eq_empty_iff_words, words_dropFrom, tokens_eq_flatMap]
  cases parts : words s with
  | nil => rfl
  | cons w ws =>
    obtain ⟨given, solid⟩ := solid_of_mem_words (parts ▸ List.mem_cons_self : w ∈ words s)
    rw [List.flatMap_cons]
    by_cases isFrom : sameIgnoringCase w "FROM"
    · rw [tokens_of_comma_free given solid (comma_free_of_from isFrom), List.singleton_append,
        dropFrom, dropFrom, if_pos isFrom, if_pos isFrom, List.flatMap_eq_nil_iff]
      constructor
      · rintro rfl
        simp
      · intro none
        refine List.eq_nil_iff_forall_not_mem.mpr fun v member => ?_
        obtain ⟨given, solid⟩ := solid_of_mem_words
          (parts ▸ List.mem_cons_of_mem _ member : v ∈ words s)
        exact tokens_ne_nil given solid (none v member)
    · rw [Bool.not_eq_true] at isFrom
      obtain ⟨t, ts, tokenized⟩ := List.exists_cons_of_ne_nil (tokens_ne_nil given solid)
      rw [tokenized, List.cons_append, dropFrom, dropFrom, if_neg (by simp [isFrom])]
      split
      · next first =>
        have later := comma_mem_of_from given solid tokenized first isFrom
        simp [List.ne_nil_of_mem later]
      · simp

/-- A spaced word that is not FROM does not start with FROM among the tokens either, unless a comma
follows at once. -/
theorem not_from_of_isSpaced {w t : String} {ts rest : List String} (given : w ≠ "")
    (solid : Solid w) (spaced : isSpaced w.toList) (tokenized : tokens w = t :: ts)
    (other : sameIgnoringCase w "FROM" = false) (apart : commaAfterFrom (t :: ts ++ rest) = false) :
    sameIgnoringCase t "FROM" = false := by
  rw [Bool.eq_false_iff]
  intro isFrom
  have later := comma_mem_of_from given solid tokenized isFrom other
  obtain ⟨u, k, -, -, -, parts⟩ := tokens_of_isSpaced solid spaced
  -- behind the first token there are commas only, and there is one
  have commas : ts = List.replicate k "," := by
    rw [tokenized] at parts
    split at parts
    · obtain rfl := List.eq_of_mem_replicate (parts ▸ List.mem_cons_self)
      exact absurd isFrom (by decide)
    · exact (List.cons.inj parts).2
  subst commas
  cases k with
  | zero => cases later
  | succ k =>
    rw [List.replicate_succ, List.cons_append, List.cons_append, commaAfterFrom, isFrom] at apart
    cases apart

/-- The tokens of the words without FROM are the tokens without it, but where a comma follows FROM
at once. -/
theorem flatMap_tokens_dropFrom {s : String} (spaced : isSpaced s.toList)
    (apart : commaAfterFrom (tokens s) = false) :
    (dropFrom (words s)).flatMap tokens = dropFrom (tokens s) := by
  rw [tokens_eq_flatMap s] at apart ⊢
  cases parts : words s with
  | nil => rfl
  | cons w ws =>
    have member : w ∈ words s := parts ▸ List.mem_cons_self
    obtain ⟨given, solid⟩ := solid_of_mem_words member
    rw [parts, List.flatMap_cons] at apart
    rw [List.flatMap_cons]
    by_cases isFrom : sameIgnoringCase w "FROM"
    · rw [tokens_of_comma_free given solid (comma_free_of_from isFrom), List.singleton_append,
        dropFrom, dropFrom, if_pos isFrom, if_pos isFrom]
    · rw [Bool.not_eq_true] at isFrom
      obtain ⟨t, ts, tokenized⟩ := List.exists_cons_of_ne_nil (tokens_ne_nil given solid)
      rw [tokenized] at apart
      have kept := not_from_of_isSpaced given solid (isSpaced_of_mem_words spaced member) tokenized
        isFrom apart
      rw [tokenized, List.cons_append, dropFrom, dropFrom, if_neg (by simp [isFrom]),
        if_neg (by simp [kept]), List.flatMap_cons, tokenized, List.cons_append]

end Source

end BoundQuery
