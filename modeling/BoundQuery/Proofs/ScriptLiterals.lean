import BoundQuery.Proofs.Assignments
import BoundQuery.Proofs.ClosedText
import BoundQuery.Proofs.LiteralContents
import BoundQuery.Proofs.RespacedSources
import BoundQuery.Proofs.WhereClauses

/-!
# Literals in scripts

A script is resolved word by word, with single spaces between the words, and quotes make no
difference to it: a word is a name inside a literal as it is outside. So a literal keeps its content
when its blanks are single spaces and none of its words is a name, and, unless a name of the catalog
has blanks around it, only then.

## Main definitions

* `Text.SharesQuotes`, texts that differ behind their last quote only
* `Scope.SparesLiterals`, scripts with no name and no odd blank in a literal
* `Scope.Inlines`, the scripts that conditions and entries bring into a statement

## Main results

* `Scope.sharesQuotes_token` — resolution changes a word behind its last quote only
* `Text.quoted_laid_eq`, `Text.of_quoted_laid_eq` — when words in a row have the quoted part that
  they had before
* `Scope.literals_of_inlines` — when the literals of a script are kept
-/

namespace BoundQuery

open Text

namespace Text

/-- The texts are equal up to their last quote, and have the same quotes. -/
def SharesQuotes (cs ds : List Char) : Prop :=
  ∃ shared rest rest', cs = shared ++ rest ∧ ds = shared ++ rest' ∧
    (∀ c ∈ rest, isQuote c = false) ∧ ∀ c ∈ rest', isQuote c = false

namespace SharesQuotes

variable {b : Bool} {cs ds : List Char}

theorem opens_eq (shares : SharesQuotes cs ds) (b : Bool) : opens b ds = opens b cs := by
  obtain ⟨shared, rest, rest', rfl, rfl, unquoted, unquoted'⟩ := shares
  rw [opens_append, opens_append, opens_of_unquoted unquoted, opens_of_unquoted unquoted']

/-- Behind the last quote stands nothing quoted, if no literal is open there. -/
theorem quoted_eq (shares : SharesQuotes cs ds) (closed : opens b cs = false) :
    quoted b ds = quoted b cs := by
  obtain ⟨shared, rest, rest', rfl, rfl, unquoted, unquoted'⟩ := shares
  rw [opens_append, opens_of_unquoted unquoted] at closed
  rw [quoted_append, quoted_append, quoted_of_unquoted unquoted, quoted_of_unquoted unquoted',
    closed]
  rfl

/-- If a literal is open at the end, each difference is a quoted one. -/
theorem quoted_eq_iff (shares : SharesQuotes cs ds) (isOpen : opens b cs) :
    quoted b ds = quoted b cs ↔ ds = cs := by
  obtain ⟨shared, rest, rest', rfl, rfl, unquoted, unquoted'⟩ := shares
  rw [opens_append, opens_of_unquoted unquoted] at isOpen
  rw [quoted_append, quoted_append, quoted_of_unquoted unquoted, quoted_of_unquoted unquoted',
    isOpen, if_pos rfl, if_pos rfl, List.append_cancel_left_eq, List.append_cancel_left_eq]

end SharesQuotes

end Text

/-! ### Words -/

namespace Scope

variable {s : Scope} {w sql : String}

/-- Where names have no quotes, a text with a quote is no name. -/
theorem key_of_quote (lacks : s.Lacks isQuote) (solid : Solid w) (given : marks isQuote w ≠ []) :
    s.key w = .ok w := by
  rw [key, trim_of_solid solid]
  cases cut : cutAt '.' w with
  | some parts =>
    obtain ⟨qualifier, property⟩ := parts
    refine if_neg fun identifiers => given ?_
    rw [Bool.and_eq_true] at identifiers
    rw [eq_append_of_cutAt cut, marks_append, marks_append,
      markClass_quote.marks_identifier identifiers.1,
      markClass_quote.marks_identifier identifiers.2]
    rfl
  | none =>
    have noTable : s.namedTable? w = none := by
      rw [namedTable?]
      split
      · cases found : s.catalog.lookup? w with
        | none => rfl
        | some e =>
          have named := (lacks.catalog e (Catalog.mem_of_lookup? found)).scriptName markClass_quote
          have lowered : e.scriptName = lowerFirst w := by simpa using List.find?_some found
          exact absurd (markClass_quote.marks_of_lowerFirst (lowered ▸ named)) given
      · rfl
    have notSelf : s.entity.isSelf w = false := by
      rw [Bool.eq_false_iff]
      exact fun self => given (lacks.entity.of_isSelf markClass_quote self)
    have noColumn : s.entity.column? w = none := by
      cases found : s.entity.property? w with
      | none => rw [Entity.column?, found]; rfl
      | some property => exact absurd (lacks.entity.of_property found).1 given
    simp only [simpleKey, noTable, notSelf, noColumn]
    rfl

theorem not_isQuote_of_isTrailer {c : Char} (trailer : isTrailer c) : isQuote c = false := by
  rw [isQuote, beq_eq_false_iff_ne]
  rintro rfl
  cases trailer

/-- Resolution changes a word behind its last quote only. -/
theorem sharesQuotes_token (lacks : s.Lacks isQuote) (solid : Solid w)
    (resolved : s.token w = .ok sql) : SharesQuotes w.toList sql.toList := by
  have same : SharesQuotes w.toList w.toList := ⟨w.toList, [], [], by simp⟩
  have whole := tokenParts_append w.toList
  rw [token] at resolved
  split at resolved
  · rw [← Except.ok.inj resolved]
    exact same
  · next outer core trailer _ parts =>
    obtain ⟨column, found, result⟩ := Outcome.bind_eq_ok.mp resolved
    obtain ⟨-, trailers⟩ := ends_of_tokenParts parts
    have ends : ∀ c ∈ trailer, isQuote c = false := fun c member =>
      not_isQuote_of_isTrailer (trailers c member)
    rw [parts] at whole
    have solidCore : Solid (String.ofList core) := by
      intro c member
      rw [String.toList_ofList] at member
      exact solid c (by rw [← whole]; simp [member])
    rw [← Outcome.pure_eq_ok.mp result]
    -- quotes stand in front of the core, or in a core that is no name
    by_cases quotes : marks isQuote (String.ofList core) = []
    · have columnQuotes := lacks.marks_key markClass_quote found
      rw [quotes, marks_eq_nil_iff] at columnQuotes
      rw [marks_eq_nil_iff, String.toList_ofList] at quotes
      refine ⟨outer, core ++ trailer, column.toList ++ trailer, ?_, by simp, ?_, ?_⟩
      · rw [← whole, List.append_assoc]
      · exact List.forall_mem_append.mpr ⟨quotes, ends⟩
      · exact List.forall_mem_append.mpr ⟨columnQuotes, ends⟩
    · rw [key_of_quote lacks solidCore quotes] at found
      rw [← Except.ok.inj found, ← String.ofList_append, ← String.ofList_append, whole,
        String.ofList_toList]
      exact same

end Scope

/-! ### Rows of words -/

namespace Text

open Scope

variable {b : Bool} {w blanks rest cs : List Char} {t : String} {ts : List String}

/-- A word and what it became: the quotes are the same, and there are no blanks around it. -/
structure Respelled (w : List Char) (t : String) : Prop where
  shares : SharesQuotes w t.toList
  trimmed : isTrimmed t

/-- Blanks and a word in front of more text. -/
theorem quoted_word (blank : blanks.all isBlank) (b : Bool) (w rest : List Char) :
    quoted b (blanks ++ (w ++ rest)) =
      (if b then blanks else []) ++ (quoted b w ++ quoted (opens b w) rest) := by
  rw [quoted_append, quoted_of_all_blank blank, opens_of_all_blank blank, quoted_append]

theorem quoted_laid_cons (shares : SharesQuotes w t.toList) (b : Bool) (ts : List String) :
    quoted b (laid (t :: ts)) =
      (if b then [' '] else []) ++ (quoted b t.toList ++ quoted (opens b w) (laid ts)) := by
  have row : laid (t :: ts) = [' '] ++ (t.toList ++ laid ts) := rfl
  rw [row, quoted_word rfl, shares.opens_eq]

theorem wordsOf_gap (blank : blanks.all isBlank) (b : Bool) (cs : List Char) :
    wordsOf ((if b then blanks else []) ++ cs) = wordsOf cs := by
  cases b with
  | true => exact wordsOf_blanks_append blank
  | false => rfl

/-- The quoted part starts with the text, or with a quote. -/
theorem startsInked_quoted (starts : startsInked cs) (given : b = false → quoted b cs ≠ []) :
    startsInked (quoted b cs) := by
  cases b with
  | true =>
    cases cs with
    | nil => cases starts
    | cons c cs =>
      rw [quoted, Bool.or_true, if_pos rfl]
      exact starts
  | false =>
    obtain ⟨c, rest, chars⟩ := List.exists_cons_of_ne_nil (given rfl)
    have head := (head?_quoted cs).resolve_left (given rfl)
    rw [chars] at head ⊢
    obtain rfl := Option.some.inj head
    rfl

/-- The quoted part of a text that ends inside a literal ends like the text. -/
theorem ends_quoted (isOpen : opens b cs) (ends : startsInked cs.reverse) :
    quoted b cs ≠ [] ∧ startsInked (quoted b cs).reverse := by
  rcases List.eq_nil_or_concat' cs with rfl | ⟨front, c, rfl⟩
  · cases ends
  · rw [quoted_concat isOpen]
    refine ⟨by simp, ?_⟩
    simp only [List.reverse_append, List.reverse_singleton, List.singleton_append] at ends ⊢
    exact ends

theorem startsBlank_quoted (cut : startsBlank cs) : startsBlank (quoted true cs) := by
  cases cs with
  | nil => rfl
  | cons c cs =>
    rw [quoted, Bool.or_true, if_pos rfl]
    exact cut

theorem startsBlank_laid (ts : List String) : startsBlank (laid ts) := by
  cases ts <;> rfl

/-- Blanks can be told from text that does not start with one. -/
theorem eq_of_blanks_append {blanks' ds : List Char} (blank : blanks.all isBlank)
    (blank' : blanks'.all isBlank) (starts : startsInked cs) (starts' : startsInked ds)
    (same : blanks ++ cs = blanks' ++ ds) : blanks = blanks' ∧ cs = ds := by
  have front : ∀ {xs ys : List Char}, xs.all isBlank → startsInked ys →
      (xs ++ ys).takeWhile isBlank = xs := by
    intro xs ys blank starts
    rw [List.takeWhile_append_of_pos (List.all_eq_true.mp blank)]
    cases ys with
    | nil => cases starts
    | cons c ys =>
      have ink : ¬ isBlank c := by simpa [startsInked] using starts
      rw [List.takeWhile_cons_of_neg ink, List.append_nil]
  have taken := congrArg (List.takeWhile isBlank) same
  rw [front blank starts, front blank' starts'] at taken
  rw [taken, List.append_cancel_left_eq] at same
  exact ⟨taken, same⟩

/-- A word that ends inside a literal is a word of the quoted part. -/
theorem wordsOf_quoted_word (isOpen : opens b w) (given : w ≠ [])
    (solid : ∀ c ∈ w, isBlank c = false) (cut : startsBlank rest) :
    wordsOf (quoted b w ++ quoted true rest) = quoted b w :: wordsOf (quoted true rest) ∧
      startsInked (quoted b w) := by
  have ends : startsInked w.reverse :=
    startsInked_of_solid (by simpa using given) fun c member => solid c (List.mem_reverse.mp member)
  obtain ⟨givenPart, -⟩ := ends_quoted isOpen ends
  have solidPart : ∀ c ∈ quoted b w, isBlank c = false := fun c member =>
    solid c (quoted_subset b w member)
  rw [wordsOf_append (startsBlank_quoted cut), wordsOf_of_solid givenPart solidPart]
  exact ⟨rfl, startsInked_of_solid givenPart solidPart⟩

/-- What such a word became has words, with the row behind it apart. -/
theorem wordsOf_quoted_respelled (isOpen : opens b w) (respelled : Respelled w t)
    (ts : List String) :
    wordsOf (quoted b t.toList ++ quoted true (laid ts)) =
        wordsOf (quoted b t.toList) ++ wordsOf (quoted true (laid ts)) ∧
      startsInked (quoted b t.toList) ∧ startsInked (quoted b t.toList).reverse := by
  obtain ⟨starts, ends⟩ := isTrimmed_iff.mp respelled.trimmed
  rw [← respelled.shares.opens_eq] at isOpen
  obtain ⟨given, ends⟩ := ends_quoted isOpen ends
  exact ⟨wordsOf_append (startsBlank_quoted (startsBlank_laid ts)),
    startsInked_quoted starts fun _ => given, ends⟩

theorem length_wordsOf_pos (starts : startsInked cs) : 0 < (wordsOf cs).length := by
  cases cs with
  | nil => cases starts
  | cons c cs =>
    have ink : isBlank c = false := by simpa [startsInked] using starts
    exact List.length_pos_iff.mpr (wordsOf_ne_nil ink)

theorem startsBlank_append_of_startsInked (starts : startsInked cs) (rest : List Char) :
    startsBlank (cs ++ rest) = false := by
  cases cs with
  | nil => cases starts
  | cons c cs => simpa [startsInked, startsBlank] using starts

/-- A word inside a literal is one word of the quoted part, and what it became is at least one. -/
theorem length_wordsOf_quoted (each : List.Forall₂ Respelled (wordsOf cs) ts) (b : Bool) :
    (wordsOf (quoted b cs)).length ≤ (wordsOf (quoted b (laid ts))).length ∧
      (b = false → startsBlank (quoted b cs) = startsBlank (quoted b (laid ts))) := by
  induction cs using words_induction generalizing b ts with
  | blank cs blank =>
    rw [wordsOf_of_all_blank blank] at each
    obtain rfl := List.forall₂_nil_left_iff.mp each
    rw [quoted_of_all_blank blank, ← List.append_nil (if b then cs else []), wordsOf_gap blank]
    refine ⟨Nat.zero_le _, ?_⟩
    rintro rfl
    rfl
  | word blanks w rest blank given solid cut ih =>
    rw [List.append_assoc] at each ⊢
    rw [wordsOf_blanks_append blank, wordsOf_append cut, wordsOf_of_solid given solid] at each
    cases each with
    | @cons _ t _ ts first later =>
      obtain ⟨fewer, same⟩ := ih later (opens b w)
      rw [quoted_word blank, quoted_laid_cons first.shares, wordsOf_gap blank, wordsOf_gap rfl]
      cases isOpen : opens b w with
      | false =>
        -- the word leaves the same part, and both rests start with a quote or are empty
        rw [isOpen] at fewer same
        rw [first.shares.quoted_eq isOpen]
        obtain ⟨count, heads⟩ := length_wordsOf_append fewer (same rfl) (quoted b w)
        refine ⟨count, ?_⟩
        rintro rfl
        exact heads
      | true =>
        -- both rests start with a blank, so the words of the two parts add up
        rw [isOpen] at fewer
        obtain ⟨words, starts⟩ := wordsOf_quoted_word isOpen given solid cut
        obtain ⟨words', starts', -⟩ := wordsOf_quoted_respelled isOpen first ts
        have some := length_wordsOf_pos starts'
        rw [words, words', List.length_cons, List.length_append]
        refine ⟨by omega, ?_⟩
        rintro rfl
        exact (startsBlank_append_of_startsInked starts _).trans
          (startsBlank_append_of_startsInked starts' _).symm

/-- If all of the quoted part has the words it had, so has a word inside a literal: the rest has no
fewer words than it had, and leaves one word for it. -/
theorem quoted_eq_of_wordsOf (isOpen : opens b w) (given : w ≠ [])
    (solid : ∀ c ∈ w, isBlank c = false) (cut : startsBlank rest) (first : Respelled w t)
    (fewer : (wordsOf (quoted true rest)).length ≤ (wordsOf (quoted true (laid ts))).length)
    (same : wordsOf (quoted b t.toList ++ quoted true (laid ts)) =
      wordsOf (quoted b w ++ quoted true rest)) : quoted b t.toList = quoted b w := by
  obtain ⟨words, -⟩ := wordsOf_quoted_word isOpen given solid cut
  obtain ⟨words', starts, ends⟩ := wordsOf_quoted_respelled isOpen first ts
  rw [words, words'] at same
  have count := congrArg List.length same
  rw [List.length_append, List.length_cons] at count
  have some := length_wordsOf_pos starts
  have one : (wordsOf (quoted b t.toList)).length = 1 := by omega
  obtain ⟨u, single⟩ := List.length_eq_one_iff.mp one
  rw [single, List.singleton_append, List.cons.injEq] at same
  rw [eq_of_wordsOf starts ends single, same.1]

/-- A single space, the word as it was and the same rest make the same quoted part. -/
theorem quoted_laid_cons_eq (blank : blanks.all isBlank) (shares : SharesQuotes w t.toList)
    (gap : b = true → blanks = [' ']) (kept : opens b w = true → t.toList = w)
    (same : quoted (opens b w) (laid ts) = quoted (opens b w) rest) :
    quoted b (laid (t :: ts)) = quoted b (blanks ++ (w ++ rest)) := by
  have word : quoted b t.toList = quoted b w := by
    cases isOpen : opens b w with
    | false => exact shares.quoted_eq isOpen
    | true => rw [kept isOpen]
  rw [quoted_word blank, quoted_laid_cons shares, word, same]
  cases b with
  | true => rw [gap rfl]
  | false => rfl

/-- If the quoted part is the same, so are its blanks, its word and its rest. -/
theorem of_quoted_laid_cons_eq (blank : blanks.all isBlank) (given : w ≠ [])
    (solid : ∀ c ∈ w, isBlank c = false) (cut : startsBlank rest) (first : Respelled w t)
    (fewer : (wordsOf (quoted (opens b w) rest)).length ≤
      (wordsOf (quoted (opens b w) (laid ts))).length)
    (same : quoted b (laid (t :: ts)) = quoted b (blanks ++ (w ++ rest))) :
    (b = true → blanks = [' ']) ∧ (opens b w = true → t.toList = w) ∧
      quoted (opens b w) (laid ts) = quoted (opens b w) rest := by
  rw [quoted_word blank, quoted_laid_cons first.shares] at same
  have word : quoted b t.toList = quoted b w := by
    cases isOpen : opens b w with
    | false => exact first.shares.quoted_eq isOpen
    | true =>
      rw [isOpen] at same fewer
      have words := congrArg wordsOf same
      rw [wordsOf_gap rfl, wordsOf_gap blank] at words
      exact quoted_eq_of_wordsOf isOpen given solid cut first fewer words
  have kept : opens b w = true → t.toList = w := fun isOpen =>
    (first.shares.quoted_eq_iff isOpen).mp word
  rw [word] at same
  -- with the words equal, the blanks in front of them and the rests are
  cases b with
  | true =>
    have starts : startsInked (quoted true w) :=
      startsInked_quoted (startsInked_of_solid given solid) (by simp)
    obtain ⟨gap, same⟩ := eq_of_blanks_append (show [' '].all isBlank from rfl) blank
      (startsInked_append starts) (startsInked_append starts) same
    exact ⟨fun _ => gap.symm, kept, List.append_cancel_left same⟩
  | false => exact ⟨by simp, kept, List.append_cancel_left same⟩

theorem isSingleSpaced_word (blank : blanks.all isBlank) (given : w ≠ [])
    (solid : ∀ c ∈ w, isBlank c = false) (cut : b = true → startsBlank (blanks ++ (w ++ rest))) :
    isSingleSpaced (quoted b (blanks ++ (w ++ rest))) ↔
      (b = true → blanks = [' ']) ∧ isSingleSpaced (quoted (opens b w) rest) := by
  have starts := startsInked_of_solid given solid
  have solidPart : ∀ c ∈ quoted b w, isBlank c = false := fun c member =>
    solid c (quoted_subset b w member)
  rw [quoted_word blank]
  cases b with
  | true =>
    have startsPart : startsInked (quoted true w) := startsInked_quoted starts (by simp)
    have gap : blanks ≠ [] := by
      rintro rfl
      rw [List.nil_append, startsBlank_append_of_startsInked starts] at cut
      exact absurd (cut rfl) Bool.false_ne_true
    rw [if_pos rfl, isSingleSpaced_blanks blank gap (startsInked_append startsPart),
      isSingleSpaced_append solidPart]
    simp
  | false =>
    rw [if_neg Bool.false_ne_true, List.nil_append, isSingleSpaced_append solidPart]
    simp

/-- The words that end inside a literal stayed as they were. -/
def KeptOpen : Bool → List (List Char) → List String → Prop
  | b, w :: ws, t :: ts => (opens b w = true → t.toList = w) ∧ KeptOpen (opens b w) ws ts
  | _, _, _ => True

/-- Words in a row, with single spaces between them, have the quoted part that they had in the
text, if it is single-spaced and the words inside literals stayed as they were. -/
theorem quoted_laid_eq (each : List.Forall₂ (fun w t => SharesQuotes w t.toList) (wordsOf cs) ts)
    (cut : b = true → startsBlank cs) (closed : opens b cs = false)
    (spaced : isSingleSpaced (quoted b cs)) (kept : KeptOpen b (wordsOf cs) ts) :
    quoted b (laid ts) = quoted b cs := by
  induction cs using words_induction generalizing b ts with
  | blank cs blank =>
    rw [opens_of_all_blank blank] at closed
    rw [wordsOf_of_all_blank blank] at each
    obtain rfl := List.forall₂_nil_left_iff.mp each
    rw [quoted_of_all_blank blank, closed]
    rfl
  | word blanks w rest blank given solid next ih =>
    rw [List.append_assoc] at each closed cut spaced kept ⊢
    rw [wordsOf_blanks_append blank, wordsOf_append next, wordsOf_of_solid given solid,
      List.singleton_append] at each kept
    rw [opens_append, opens_of_all_blank blank, opens_append] at closed
    cases each with
    | @cons _ t _ ts first later =>
      obtain ⟨gap, spacedRest⟩ := (isSingleSpaced_word blank given solid cut).mp spaced
      obtain ⟨keptWord, keptRest⟩ := kept
      exact quoted_laid_cons_eq blank first gap keptWord
        (ih later (fun _ => next) closed spacedRest keptRest)

/-- The converse, for words that have no blanks around them. -/
theorem of_quoted_laid_eq (each : List.Forall₂ Respelled (wordsOf cs) ts)
    (cut : b = true → startsBlank cs) (closed : opens b cs = false)
    (same : quoted b (laid ts) = quoted b cs) :
    isSingleSpaced (quoted b cs) ∧ KeptOpen b (wordsOf cs) ts := by
  induction cs using words_induction generalizing b ts with
  | blank cs blank =>
    rw [opens_of_all_blank blank] at closed
    rw [wordsOf_of_all_blank blank] at each ⊢
    obtain rfl := List.forall₂_nil_left_iff.mp each
    rw [quoted_of_all_blank blank, closed]
    exact ⟨rfl, trivial⟩
  | word blanks w rest blank given solid next ih =>
    rw [List.append_assoc] at each closed cut same ⊢
    rw [wordsOf_blanks_append blank, wordsOf_append next, wordsOf_of_solid given solid,
      List.singleton_append] at each ⊢
    rw [opens_append, opens_of_all_blank blank, opens_append] at closed
    cases each with
    | @cons _ t _ ts first later =>
      obtain ⟨gap, keptWord, sameRest⟩ := of_quoted_laid_cons_eq blank given solid next first
        (length_wordsOf_quoted later _).1 same
      obtain ⟨spacedRest, keptRest⟩ := ih later (fun _ => next) closed sameRest
      exact ⟨(isSingleSpaced_word blank given solid cut).mpr ⟨gap, spacedRest⟩, keptWord, keptRest⟩

end Text

/-! ### Scripts -/

namespace Scope

variable {s : Scope} {text sql : String} {b : Bool} {ts : List String}

theorem opens_laid_cons (b : Bool) (t : String) (ts : List String) :
    opens b (laid (t :: ts)) = opens (opens b t.toList) (laid ts) := by
  have row : laid (t :: ts) = [' '] ++ (t.toList ++ laid ts) := rfl
  have blank : [' '].all isBlank := rfl
  rw [row, opens_append, opens_of_all_blank blank, opens_append]

/-- The words inside literals stayed as they were when each of them is resolved to itself. -/
theorem keptOpen_iff {chars : List (List Char)}
    (each : List.Forall₂ (fun w t => s.token (String.ofList w) = .ok t) chars ts) :
    KeptOpen b chars ts ↔ ∀ front w back, chars.map String.ofList = front ++ w :: back →
      opens b (laid (front ++ [w])) → s.token w = .ok w := by
  induction each generalizing b with
  | nil => exact iff_of_true trivial fun front w back none => by simp at none
  | @cons w t chars ts first _ ih =>
    have head : (opens b w = true → t.toList = w) ↔
        (opens b (laid [String.ofList w]) → s.token (String.ofList w) = .ok (String.ofList w)) := by
      have row : opens b (laid [String.ofList w]) = opens b w := by
        rw [opens_laid_cons, String.toList_ofList]
        rfl
      rw [row, first, Except.ok.injEq, ← String.toList_inj, String.toList_ofList]
    rw [KeptOpen, ih, head]
    constructor
    · rintro ⟨here, later⟩ front u back whole isOpen
      cases front with
      | nil =>
        obtain ⟨rfl, -⟩ := List.cons.inj whole
        exact here isOpen
      | cons x front =>
        obtain ⟨rfl, rest⟩ := List.cons.inj whole
        rw [List.cons_append, opens_laid_cons, String.toList_ofList] at isOpen
        exact later front u back rest isOpen
    · intro each
      refine ⟨each [] _ _ rfl, fun front u back rest isOpen => ?_⟩
      refine each (String.ofList w :: front) u back (by rw [List.map_cons, rest]; rfl) ?_
      rwa [List.cons_append, opens_laid_cons, String.toList_ofList]

/-- Only the quotes of a script decide where its literals end, and these are kept. -/
theorem leavesOpen_script (lacks : s.Lacks isQuote) (resolved : s.script text = .ok sql) :
    leavesOpen sql = leavesOpen text := by
  have kept := lacks.marks_script markClass_quote resolved
  rw [leavesOpen, ← opens_filter, ← marks, kept, marks, opens_filter, leavesOpen]

theorem leavesOpen_joinWith {texts : List String} (given : texts ≠ []) :
    leavesOpen (joinWith " " texts) = opens false (laid texts) := by
  rw [laid_eq given]
  rfl

/-- The blanks of the literals of a script are single spaces, and each word at whose end a literal
is open resolves to itself. -/
structure SparesLiterals (s : Scope) (text : String) : Prop where
  spaced : ∀ content ∈ literals text, isSingleSpaced content.toList
  words : ∀ front w back, Text.words text = front ++ w :: back →
    leavesOpen (joinWith " " (front ++ [w])) → s.token w = .ok w

theorem sparesLiterals_iff (closed : leavesOpen text = false)
    (each : List.Forall₂ (fun w t => s.token (String.ofList w) = .ok t) (wordsOf text.toList) ts) :
    s.SparesLiterals text ↔ isSingleSpaced (quoted false text.toList) ∧
      KeptOpen false (wordsOf text.toList) ts := by
  have fronts : ∀ front w, leavesOpen (joinWith " " (front ++ [w])) =
      opens false (laid (front ++ [w])) := fun front w => leavesOpen_joinWith (by simp)
  rw [isSingleSpaced_quoted closed, keptOpen_iff each]
  constructor
  · intro spares
    refine ⟨spares.spaced, fun front w back whole isOpen => ?_⟩
    exact spares.words front w back whole (by rwa [fronts])
  · rintro ⟨spaced, kept⟩
    refine ⟨spaced, fun front w back whole isOpen => kept front w back whole ?_⟩
    rwa [← fronts]

/-- The literals of a resolved script are kept if they are spared, and if names have no blanks
around them, only then. -/
theorem literals_script (lacks : s.Lacks isQuote) (resolved : s.script text = .ok sql)
    (closed : leavesOpen text = false) :
    (s.SparesLiterals text → literals sql = literals text) ∧
      (s.Trimmed → literals sql = literals text → s.SparesLiterals text) := by
  have closed' : leavesOpen sql = false :=
    (leavesOpen_script lacks resolved).trans closed
  obtain ⟨tokens, each, result⟩ := Outcome.bind_eq_ok.mp resolved
  rw [Outcome.mapM_eq_ok_iff, words, List.forall₂_map_left_iff] at each
  have row : quoted false sql.toList = quoted false (laid tokens) := by
    rw [← Outcome.pure_eq_ok.mp result]
    by_cases none : tokens = []
    · rw [none]
      rfl
    · rw [laid_eq none]
      rfl
  have isWord : ∀ w ∈ wordsOf text.toList, String.ofList w ∈ words text := fun w member =>
    List.mem_map_of_mem member
  have shares : ∀ w t, String.ofList w ∈ words text ∧ s.token (String.ofList w) = .ok t →
      SharesQuotes w t.toList := by
    intro w t both
    have shared := sharesQuotes_token lacks (solid_of_mem_words both.1).2 both.2
    rwa [String.toList_ofList] at shared
  have words := (List.forall₂_and_left _ _).mpr ⟨isWord, each⟩
  rw [literals_eq_iff closed' closed, row, sparesLiterals_iff closed each]
  constructor
  · rintro ⟨spaced, kept⟩
    exact quoted_laid_eq (words.imp shares) (by simp) closed spaced kept
  · intro trimmed same
    have respelled : List.Forall₂ Respelled (wordsOf text.toList) tokens := by
      refine words.imp fun w t both => ⟨shares w t both, ?_⟩
      obtain ⟨given, solid⟩ := solid_of_mem_words both.1
      exact carried_isTrimmed.token trimmed.namedBy given solid both.2
    exact of_quoted_laid_eq respelled (by simp) closed same

/-! ### Places of scripts -/

/-- The scripts that conditions and entries bring into a statement, with what they become there: a
script condition, an entry that is a script, or an expression compared with. -/
inductive Inlines (s : Scope) : String → String → Prop where
  | condition {f : Filter} {c : Condition} {g : Fragment} (ofScope : f.scope = s)
    (isScript : c.predicate = .script) (ok : f.leafBody c = .ok (some g)) : Inlines s c.key g.sql
  | entry {c : Condition} {g : Fragment}
    (isScript : c.predicate = .script ∨ hasChar '?' (trim c.key))
    (ok : Assignment.ofEntry s c = .ok (some g)) : Inlines s c.key g.sql
  | expression {f : Filter} {c : Condition} {g : Fragment} {e key right : String}
    (ofScope : f.scope = s) (single : c.predicate.shape = .single) (given : c.expression? = some e)
    (ok : f.leafBody c = .ok (some g)) (ofKey : s.script c.key = .ok key)
    (written : g.sql = key ++ " " ++ c.predicate.sql ++ " " ++ right) : Inlines s e right

/-- All of them are resolved as scripts. -/
theorem Inlines.resolved (inlined : s.Inlines text sql) : s.script text = .ok sql := by
  cases inlined with
  | @condition f c g ofScope isScript ok =>
    subst ofScope
    cases Filter.leafBody_eq_some_iff.mp ok with
    | script shape resolved some =>
      rw [resolved]
      exact congrArg Except.ok String.append_empty.symm
    | nullCheck shape some resolved => rw [isScript] at shape; cases shape
    | comparison shape => rw [isScript] at shape; cases shape
  | @entry c g isScript ok =>
    rw [← script_trim]
    cases Assignment.gives_of_ofEntry ok with
    | script named isScript whole resolved =>
      rw [resolved]
      exact congrArg Except.ok String.append_empty.symm
    | placeholder named notScript holds is resolved =>
      rw [resolved]
      exact congrArg Except.ok String.append_empty.symm
    | property named notScript lacks =>
      rw [lacks] at isScript
      rcases isScript with isScript | holds
      · exact absurd isScript notScript
      · cases holds
  | @expression f c g e key right ofScope single given ok ofKey written =>
    subst ofScope
    cases Filter.leafBody_eq_some_iff.mp ok with
    | script shape => rw [single] at shape; cases shape
    | nullCheck shape => rw [single] at shape; cases shape
    | comparison compares operand present some resolved follows =>
      rw [Condition.expression?, operand] at given
      rw [ofKey] at resolved
      cases follows with
      | members shape => rw [single] at shape; cases shape
      | range shape => rw [single] at shape; cases shape
      | value shape isBound => cases isBound.symm.trans given
      | @expression v e right shape inlined resolvedRight =>
        obtain rfl := Option.some.inj (inlined.symm.trans given)
        obtain rfl := Except.ok.inj resolved
        have pieces : Fragment.sql [.text key, .text " ", .text c.predicate.sql, .text " ",
            .text right] = key ++ " " ++ c.predicate.sql ++ " " ++ right := by
          simp [Piece.sql, String.append_assoc]
        rw [pieces, String.append_right_inj] at written
        rw [resolvedRight, written]

/-- Where names have no quotes, the literals of a script all end in the statement too. They keep
their contents if their blanks are single spaces and no word inside them is a name. If names have no
blanks around them either, they keep their contents only then. -/
theorem literals_of_inlines (ofCatalog : s.catalog.Lacks isQuote)
    (ofEntity : s.entity.Lacks isQuote) (inlined : s.Inlines text sql)
    (closed : leavesOpen text = false) :
    leavesOpen sql = false ∧
      (s.SparesLiterals text → literals sql = literals text) ∧
      (s.Trimmed → literals sql = literals text → s.SparesLiterals text) := by
  have lacks : s.Lacks isQuote := ⟨ofCatalog, ofEntity⟩
  have resolved := inlined.resolved
  exact ⟨(leavesOpen_script lacks resolved).trans closed, literals_script lacks resolved closed⟩

end Scope

namespace Ledger

theorem unquoted_account : account.Lacks isQuote where
  name := rfl
  table := rfl
  properties := by decide

theorem unquoted_catalog : catalog.Lacks isQuote := by
  intro e member
  rw [List.mem_singleton.mp member]
  exact unquoted_account

/-- A column is renamed in front of two literals, of which one has a blank in it. -/
def onHold : Condition :=
  .script "UPPER( a.state ) IN ('open', 'on hold')" []

/-- Two blanks and the name of a property inside a literal. -/
def noted : Condition :=
  .script "note = 'open  state now'" []

end Ledger

/-- The words of the literals are no names, and stay. -/
theorem Scope.literals_of_inlines_onHold :
    Ledger.catalog.Lacks isQuote ∧ Ledger.account.Lacks isQuote ∧ Ledger.compared.scope.Trimmed ∧
    leavesOpen Ledger.onHold.key = false ∧
    ∃ g, Ledger.compared.leafBody Ledger.onHold = .ok (some g) ∧
      g.sql = "UPPER( a.account_state ) IN ('open', 'on hold')" ∧ leavesOpen g.sql = false ∧
      literals g.sql = literals Ledger.onHold.key ∧
      Ledger.compared.scope.SparesLiterals Ledger.onHold.key ∧
      Ledger.compared.scope.token "'on" = .ok "'on" := by
  have closed : leavesOpen Ledger.onHold.key = false := by decide +kernel
  have trimmed : Ledger.compared.scope.Trimmed :=
    ⟨Ledger.catalog_trimmed, Ledger.catalog_trimmed _ List.mem_cons_self⟩
  obtain ⟨g, ok, text⟩ : ∃ g, Ledger.compared.leafBody Ledger.onHold = .ok (some g) ∧
      g.sql = "UPPER( a.account_state ) IN ('open', 'on hold')" := ⟨_, rfl, rfl⟩
  obtain ⟨ends, -, only⟩ := literals_of_inlines Ledger.unquoted_catalog Ledger.unquoted_account
    (.condition rfl rfl ok) closed
  have same : literals g.sql = literals Ledger.onHold.key := by
    rw [text]
    decide +kernel
  have spares := only trimmed same
  refine ⟨Ledger.unquoted_catalog, Ledger.unquoted_account, trimmed, closed, g, ok, text, ends,
    same, spares, ?_⟩
  exact spares.words ["UPPER(", "a.state", ")", "IN", "('open',"] "'on" ["hold')"]
    (by decide +kernel) (by decide +kernel)

/-- A literal with a name and two blanks in it has another content in the statement. -/
theorem Scope.literals_of_name :
    leavesOpen Ledger.noted.key = false ∧
    ∃ g, Ledger.compared.leafBody Ledger.noted = .ok (some g) ∧
      g.sql = "note = 'open account_state now'" ∧
      literals Ledger.noted.key = ["open  state now"] ∧
      literals g.sql = ["open account_state now"] := by
  refine ⟨by decide +kernel, [.script "note = 'open account_state now'" []], rfl, rfl,
    by decide +kernel, ?_⟩
  decide +kernel

end BoundQuery
