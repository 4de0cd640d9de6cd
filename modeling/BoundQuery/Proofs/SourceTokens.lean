import BoundQuery.Proofs.TrimmedText
import BoundQuery.Scope.Source

/-!
# The tokens of a source

A source is written as tokens with blanks between them; a comma may touch its neighbours. However
the blanks are chosen, the tokens are read back, and a leading FROM changes nothing about what the
source declares.

## Main definitions

* `Source.isToken`, the texts that stand for one token
* `Source.Spells`, the texts in which given tokens are written

## Main results

* `Text.wordsOf_append` — words on both sides of a cut
* `Source.tokens_of_spells`, `Source.words_of_spells` — tokens are read back
* `Source.declarations_withoutFrom`, `Source.words_withoutFrom` — a source without its FROM
-/

namespace BoundQuery

/-! ### Words around a cut -/

namespace Text

/-- Is there nothing, or a blank in front? -/
def startsBlank : List Char → Bool
  | [] => true
  | c :: _ => isBlank c

variable {c : Char} {cs ds : List Char}

theorem wordsOf_ne_nil (ink : isBlank c = false) : wordsOf (c :: cs) ≠ [] := by
  intro none
  have kept := flatten_wordsOf (c :: cs)
  rw [none, List.filter_cons_of_pos (by simp [ink])] at kept
  cases kept

theorem wordsOf_blank (blank : isBlank c) : wordsOf (c :: cs) = wordsOf cs := by
  rw [wordsOf.eq_def]
  exact if_pos blank

/-- A character before a blank ends a word. -/
theorem wordsOf_last (ink : isBlank c = false) (cut : startsBlank cs) :
    wordsOf (c :: cs) = [c] :: wordsOf cs := by
  rw [wordsOf.eq_def]
  simp only [ink, Bool.false_eq_true, if_false]
  cases cs with
  | nil => rfl
  | cons d ds => exact if_pos cut

/-- A character joins the word that starts right after it. -/
theorem wordsOf_joined {d : Char} {w : List Char} {ws : List (List Char)} (ink : isBlank c = false)
    (inkNext : isBlank d = false) (next : wordsOf (d :: ds) = w :: ws) :
    wordsOf (c :: d :: ds) = (c :: w) :: ws := by
  rw [wordsOf.eq_def]
  simp only [ink, inkNext, Bool.false_eq_true, if_false, next]

/-- A text that is cut before a blank has the words of its two parts. -/
theorem wordsOf_append (cut : startsBlank ds) : wordsOf (cs ++ ds) = wordsOf cs ++ wordsOf ds := by
  induction cs with
  | nil => rfl
  | cons c cs ih =>
    by_cases blank : isBlank c
    · rw [List.cons_append, wordsOf_blank blank, wordsOf_blank blank, ih]
    · rw [Bool.not_eq_true] at blank
      cases cs with
      | nil => rw [List.singleton_append, wordsOf_last blank cut, wordsOf_last blank rfl]; rfl
      | cons d cs =>
        by_cases next : isBlank d
        · have ends : startsBlank (d :: cs) := next
          have endsBefore : startsBlank (d :: cs ++ ds) := next
          rw [List.cons_append, wordsOf_last blank endsBefore, wordsOf_last blank ends, ih]
          rfl
        · rw [Bool.not_eq_true] at next
          -- the first word of the rest is there, and takes the character on both sides
          obtain ⟨w, ws, first⟩ : ∃ w ws, wordsOf (d :: cs) = w :: ws :=
            List.exists_cons_of_ne_nil (wordsOf_ne_nil next)
          rw [first, List.cons_append, List.cons_append] at ih
          rw [List.cons_append, List.cons_append, wordsOf_joined blank next ih,
            wordsOf_joined blank next first, List.cons_append]

theorem wordsOf_of_solid (given : cs ≠ []) (solid : ∀ c ∈ cs, isBlank c = false) :
    wordsOf cs = [cs] := by
  induction cs with
  | nil => exact absurd rfl given
  | cons c cs ih =>
    rw [List.forall_mem_cons] at solid
    cases cs with
    | nil => rw [wordsOf_last solid.1 rfl]; rfl
    | cons d ds =>
      exact wordsOf_joined solid.1 (solid.2 d List.mem_cons_self)
        (ih (List.cons_ne_nil d ds) solid.2)

theorem startsBlank_of_all (blank : cs.all isBlank) : startsBlank cs := by
  cases cs with
  | nil => rfl
  | cons c cs => exact (List.all_eq_true.mp blank) c List.mem_cons_self

theorem startsBlank_dropWhile (cs : List Char) :
    startsBlank (cs.dropWhile fun c => !isBlank c) := by
  induction cs with
  | nil => rfl
  | cons c cs ih =>
    rw [List.dropWhile_cons]
    split
    · exact ih
    · next blank => simpa [startsBlank] using blank

theorem wordsOf_of_all_blank (blank : cs.all isBlank) : wordsOf cs = [] := by
  induction cs with
  | nil => rfl
  | cons c cs ih =>
    rw [List.all_cons, Bool.and_eq_true] at blank
    rw [wordsOf_blank blank.1, ih blank.2]

theorem wordsOf_blanks_append (blank : cs.all isBlank) : wordsOf (cs ++ ds) = wordsOf ds := by
  induction cs with
  | nil => rfl
  | cons c cs ih =>
    rw [List.all_cons, Bool.and_eq_true] at blank
    rw [List.cons_append, wordsOf_blank blank.1, ih blank.2]

end Text

namespace Source

open Text

/-! ### Tokens between blanks -/

/-- A comma, or a text without blanks and commas. -/
def isToken (t : String) : Bool :=
  t == "," || !t.isEmpty && t.toList.all fun c => !isBlank c && c != ','

/-- The text consists of the tokens with blanks between them. In a `tight` text a comma needs no
blanks around it. -/
inductive Spells (tight : Bool) : List String → List Char → Prop where
  | nil {blanks : List Char} (blank : blanks.all isBlank) : Spells tight [] blanks
  | cons {blanks rest : List Char} {t : String} {ts : List String} (blank : blanks.all isBlank)
    (single : isToken t) (later : Spells tight ts rest)
    (cut : startsBlank rest ∨ tight ∧ (t = "," ∨ rest.head? = some ',')) :
    Spells tight (t :: ts) (blanks ++ t.toList ++ rest)

theorem Spells.blank_cons {tight : Bool} {ts : List String} {cs : List Char} {b : Char}
    (spelled : Spells tight ts cs) (blank : isBlank b) : Spells tight ts (b :: cs) := by
  cases spelled with
  | nil blanks => exact .nil (by rw [List.all_cons, blank, blanks]; rfl)
  | @cons before rest t ts blanks single later cut =>
    have allBlank : (b :: before).all isBlank := by rw [List.all_cons, blank, blanks]; rfl
    exact .cons allBlank single later cut

/-- The characters of a source with blanks around its commas. -/
def loosened (cs : List Char) : List Char :=
  cs.flatMap fun c => if c = ',' then " , ".toList else [c]

theorem loosened_append (cs ds : List Char) : loosened (cs ++ ds) = loosened cs ++ loosened ds :=
  List.flatMap_append

theorem tokens_eq (s : String) : tokens s = (wordsOf (loosened s.toList)).map String.ofList := by
  rw [tokens, words, replaceEach, String.toList_ofList]
  rfl

theorem loosened_of_comma_free {cs : List Char} (free : ∀ c ∈ cs, c ≠ ',') : loosened cs = cs := by
  rw [loosened, List.flatMap_congr (g := fun c => [c]) fun c member => if_neg (free c member)]
  exact List.flatMap_singleton' cs

theorem ne_comma_of_isBlank {c : Char} (blank : isBlank c) : c ≠ ',' := by
  rintro rfl
  cases blank

theorem loosened_of_all_blank {cs : List Char} (blank : cs.all isBlank) : loosened cs = cs :=
  loosened_of_comma_free fun c member =>
    ne_comma_of_isBlank (List.all_eq_true.mp blank c member)

/-- A blank or a comma in front becomes a blank in front. -/
theorem startsBlank_loosened {cs : List Char} (cut : startsBlank cs ∨ cs.head? = some ',') :
    startsBlank (loosened cs) := by
  cases cs with
  | nil => rfl
  | cons c cs =>
    rw [loosened, List.flatMap_cons]
    by_cases comma : c = ','
    · rw [if_pos comma]
      rfl
    · rw [if_neg comma]
      rcases cut with blank | head
      · exact blank
      · exact absurd (Option.some.inj head) comma

theorem isToken_cases {t : String} (single : isToken t) :
    t = "," ∨ t.toList ≠ [] ∧ ∀ c ∈ t.toList, isBlank c = false ∧ c ≠ ',' := by
  rw [isToken, Bool.or_eq_true, beq_iff_eq, Bool.and_eq_true] at single
  refine single.imp_right fun ⟨given, each⟩ => ⟨by simpa using given, fun c member => ?_⟩
  have plain := List.all_eq_true.mp each c member
  simpa using plain

/-- Tokens that are spelled are read back, with or without blanks around the commas. -/
theorem wordsOf_loosened {tight : Bool} {ts : List String} {cs : List Char}
    (spelled : Spells tight ts cs) : wordsOf (loosened cs) = ts.map String.toList := by
  induction spelled with
  | nil blank => rw [loosened_of_all_blank blank, wordsOf_of_all_blank blank, List.map_nil]
  | @cons blanks rest t ts blank single _ cut ih =>
    rw [loosened_append, loosened_append, loosened_of_all_blank blank, List.append_assoc,
      wordsOf_blanks_append blank, List.map_cons, ← ih]
    rcases isToken_cases single with rfl | ⟨given, plain⟩
    -- a comma brings its own blanks
    · have comma : loosened ",".toList ++ loosened rest = " ,".toList ++ (' ' :: loosened rest) := rfl
      rw [comma, wordsOf_append (by rfl), wordsOf_blank (by rfl)]
      rfl
    · have apart : startsBlank rest ∨ rest.head? = some ',' := by
        rcases cut with blank | ⟨-, rfl | head⟩
        · exact .inl blank
        · exact absurd rfl (plain ',' (by decide)).2
        · exact .inr head
      rw [loosened_of_comma_free fun c member => (plain c member).2,
        wordsOf_append (startsBlank_loosened apart),
        wordsOf_of_solid given fun c member => (plain c member).1, List.singleton_append]

theorem tokens_of_spells {tight : Bool} {ts : List String} {s : String}
    (spelled : Spells tight ts s.toList) : tokens s = ts := by
  rw [tokens_eq, wordsOf_loosened spelled, List.map_map]
  simp

/-- Where every token has blanks around it, the words are the tokens. -/
theorem words_of_spells {ts : List String} {s : String} (spelled : Spells false ts s.toList) :
    words s = ts := by
  have each : ∀ {ts : List String} {cs : List Char}, Spells false ts cs →
      wordsOf cs = ts.map String.toList := by
    intro ts cs spelled
    induction spelled with
    | nil blank => rw [wordsOf_of_all_blank blank, List.map_nil]
    | @cons blanks rest t ts blank single _ cut ih =>
      have solid : t.toList ≠ [] ∧ ∀ c ∈ t.toList, isBlank c = false := by
        rcases isToken_cases single with rfl | ⟨given, plain⟩
        · refine ⟨List.cons_ne_nil _ _, fun c member => ?_⟩
          obtain rfl : c = ',' := List.mem_singleton.mp member
          rfl
        · exact ⟨given, fun c member => (plain c member).1⟩
      have apart : startsBlank rest := cut.elim id fun tight => absurd tight.1 Bool.false_ne_true
      rw [List.append_assoc, wordsOf_blanks_append blank, wordsOf_append apart,
        wordsOf_of_solid solid.1 solid.2, ih]
      rfl
  rw [words, each spelled, List.map_map]
  simp

/-- Tokens with single blanks between them. -/
theorem spells_joinWith {ts : List String} (each : ∀ t ∈ ts, isToken t) :
    Spells false ts (joinWith " " ts).toList := by
  fun_induction joinWith " " ts with
  | case1 => exact .nil rfl
  | case2 t =>
    have single : Spells false [t] ([] ++ t.toList ++ []) :=
      .cons rfl (each t List.mem_cons_self) (.nil rfl) (.inl rfl)
    rwa [List.nil_append, List.append_nil] at single
  | case3 t ts given ih =>
    rw [List.forall_mem_cons] at each
    have later := ih each.2
    have first : Spells false (t :: ts) ([] ++ t.toList ++ ' ' :: (joinWith " " ts).toList) :=
      .cons rfl each.1 (later.blank_cons rfl) (.inl rfl)
    rw [String.toList_append, String.toList_append, List.append_assoc]
    exact first

/-! ### The leading FROM -/

/-- Trimmed text does not start with a blank. -/
theorem not_isBlank_of_trim {s : String} {c : Char} {cs : List Char}
    (starts : (trim s).toList = c :: cs) : isBlank c = false := by
  have start : (dropBlanks s.toList).head? = some c := by
    have parts : dropBlanksEnd (dropBlanks s.toList) <+: dropBlanks s.toList := by
      rw [dropBlanksEnd, ← List.reverse_suffix, List.reverse_reverse]
      exact List.dropWhile_suffix _
    rw [trim, String.toList_ofList] at starts
    rw [starts] at parts
    obtain ⟨rest, whole⟩ := parts
    rw [← whole]
    rfl
  have stops := List.head?_dropWhile_not isBlank s.toList
  rw [dropBlanks] at start
  rw [start] at stops
  exact stops

/-- A source without its leading FROM, by the first word of the trimmed source and what follows
it. -/
theorem withoutFrom_eq (s : String) : ∃ first rest : List Char,
    (trim s).toList = first ++ rest ∧ startsBlank rest ∧ (∀ c ∈ first, isBlank c = false) ∧
      (first = [] → rest = []) ∧
      withoutFrom s =
        if sameIgnoringCase (String.ofList first) "FROM" then trimStart (String.ofList rest)
        else trim s := by
  have whole : ((trim s).toList.takeWhile fun c => !isBlank c) ++
      ((trim s).toList.dropWhile fun c => !isBlank c) = (trim s).toList :=
    List.takeWhile_append_dropWhile
  refine ⟨(trim s).toList.takeWhile fun c => !isBlank c,
    (trim s).toList.dropWhile fun c => !isBlank c, whole.symm, ?_, ?_, ?_, by rw [withoutFrom]⟩
  · exact startsBlank_dropWhile (trim s).toList
  · intro c member
    simpa using List.mem_takeWhile_imp member
  · intro none
    rw [none, List.nil_append] at whole
    rw [whole]
    cases starts : (trim s).toList with
    | nil => rfl
    | cons c cs =>
      rw [starts, List.takeWhile_cons_of_pos (by simp [not_isBlank_of_trim starts])] at none
      cases none

theorem words_trim (s : String) : words (trim s) = words s := by
  obtain ⟨before, after, whole, blank, blankEnd⟩ := toList_eq_trim s
  rw [words, words, whole, List.append_assoc, wordsOf_blanks_append blank,
    wordsOf_append (startsBlank_of_all blankEnd), wordsOf_of_all_blank blankEnd, List.append_nil]

theorem tokens_trim (s : String) : tokens (trim s) = tokens s := by
  obtain ⟨before, after, whole, blank, blankEnd⟩ := toList_eq_trim s
  rw [tokens_eq, tokens_eq, whole, loosened_append, loosened_append, loosened_of_all_blank blank,
    loosened_of_all_blank blankEnd, List.append_assoc, wordsOf_blanks_append blank,
    wordsOf_append (startsBlank_of_all blankEnd), wordsOf_of_all_blank blankEnd, List.append_nil]

theorem wordsOf_dropBlanks (cs : List Char) : wordsOf (dropBlanks cs) = wordsOf cs := by
  have parts : cs.takeWhile isBlank ++ dropBlanks cs = cs := List.takeWhile_append_dropWhile
  have blank : (cs.takeWhile isBlank).all isBlank := List.all_takeWhile
  calc wordsOf (dropBlanks cs) = wordsOf (cs.takeWhile isBlank ++ dropBlanks cs) :=
        (wordsOf_blanks_append blank).symm
    _ = wordsOf cs := by rw [parts]

/-- The words of a source without its leading FROM, in any case. -/
theorem words_withoutFrom (s : String) : words (withoutFrom s) =
    match words s with
    | [] => []
    | w :: ws => if sameIgnoringCase w "FROM" then ws else w :: ws := by
  obtain ⟨first, rest, whole, cut, solid, none, stripped⟩ := withoutFrom_eq s
  have parts : words s = (wordsOf first).map String.ofList ++ (wordsOf rest).map String.ofList := by
    rw [← words_trim, words, whole, wordsOf_append cut, List.map_append]
  cases first with
  | nil =>
    rw [none rfl] at parts
    rw [stripped, if_neg (by decide), words_trim, parts]
    rfl
  | cons c cs =>
    rw [wordsOf_of_solid (List.cons_ne_nil c cs) solid] at parts
    rw [parts, stripped]
    simp only [List.map_cons, List.map_nil, List.singleton_append]
    split
    · rw [trimStart, String.toList_ofList, words, String.toList_ofList, wordsOf_dropBlanks]
    · rw [words_trim, parts]
      rfl

theorem loosened_dropBlanks (cs : List Char) :
    wordsOf (loosened (dropBlanks cs)) = wordsOf (loosened cs) := by
  have parts : cs.takeWhile isBlank ++ dropBlanks cs = cs := List.takeWhile_append_dropWhile
  have blank : (cs.takeWhile isBlank).all isBlank := List.all_takeWhile
  conv_rhs => rw [← parts]
  rw [loosened_append, loosened_of_all_blank blank, wordsOf_blanks_append blank]

theorem announcesEntity_of_from {t : String} (same : sameIgnoringCase t "FROM") :
    announcesEntity t := by
  rw [announcesEntity, same, Bool.or_true, Bool.true_or]

/-- What a source declares does not depend on its leading FROM: an entity is expected at the start
anyway. -/
theorem declarations_withoutFrom (s : String) :
    declarations true (tokens (withoutFrom s)) = declarations true (tokens s) := by
  obtain ⟨first, rest, whole, cut, solid, none, stripped⟩ := withoutFrom_eq s
  rw [stripped]
  split
  · next same =>
    -- a text that is FROM in some case has no comma
    have free : ∀ c ∈ first, c ≠ ',' := by
      rintro c member rfl
      rw [sameIgnoringCase, beq_iff_eq, asciiUpper, String.toList_ofList] at same
      have upper : Char.toUpper ',' ∈ asciiUpper "FROM" := same ▸ List.mem_map_of_mem member
      exact absurd upper (by decide)
    have given : first ≠ [] := by
      rintro rfl
      exact absurd same (by decide)
    have parts : tokens s = String.ofList first :: tokens (trimStart (String.ofList rest)) := by
      rw [← tokens_trim, tokens_eq, tokens_eq, whole, trimStart, String.toList_ofList,
        String.toList_ofList, loosened_dropBlanks, loosened_append, loosened_of_comma_free free,
        wordsOf_append (startsBlank_loosened (.inl cut)), wordsOf_of_solid given solid]
      rfl
    rw [parts, declarations, if_pos (announcesEntity_of_from same)]
  · rw [tokens_trim]

end Source

end BoundQuery
