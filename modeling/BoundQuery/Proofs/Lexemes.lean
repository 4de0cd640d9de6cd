import BoundQuery.Proofs.Outcome
import BoundQuery.Proofs.WrittenValues
import BoundQuery.Text.Blank
import BoundQuery.Text.Letter

/-!
# Lexemes

The lexemes of an SQL text are its parentheses and commas and the words between them. A text falls
apart into the lexemes of its parts wherever no word runs across the cut.

## Main definitions

* `Lexeme`, words and signs
* `Text.lexemes`, the lexemes of a text
* `Text.isWord`, texts of one word
* `Text.isPath`, words of identifiers and points

## Main results

* `Text.lexemesOf_append` — lexemes part by part
* `Text.isWord_of_isPath`, `Dialect.isWord_member` — paths and members of lists are one word each
-/

namespace BoundQuery

/-- A unit of an SQL text. -/
inductive Lexeme where
  | word (cs : List Char)
  /-- A parenthesis or a comma. -/
  | sign (c : Char)
  deriving DecidableEq

namespace Text

/-- Does the character stand for itself? -/
def isSign (c : Char) : Bool :=
  c == '(' || c == ')' || c == ','

/-- Does the character belong to a word? -/
def isInk (c : Char) : Bool :=
  !isBlank c && !isSign c

/-- Do the characters start with a word? -/
def opensWord : List Char → Bool
  | [] => false
  | c :: _ => isInk c

/-- A character in front of the word that starts right after it. -/
def extendWord (c : Char) : List Lexeme → List Lexeme
  | .word w :: rest => .word (c :: w) :: rest
  | rest => .word [c] :: rest

/-- The lexemes of characters. -/
def lexemesOf : List Char → List Lexeme
  | [] => []
  | c :: cs =>
    if isBlank c then lexemesOf cs
    else if isSign c then .sign c :: lexemesOf cs
    else if opensWord cs then extendWord c (lexemesOf cs)
    else .word [c] :: lexemesOf cs

/-- The lexemes of a text. -/
def lexemes (s : String) : List Lexeme :=
  lexemesOf s.toList

variable {c : Char} {cs ds : List Char} {s t : String}

theorem lexemesOf_blank (blank : isBlank c) : lexemesOf (c :: cs) = lexemesOf cs := by
  rw [lexemesOf, if_pos blank]

theorem not_isBlank_of_isSign (sign : isSign c) : isBlank c = false := by
  simp only [isSign, Bool.or_eq_true, beq_iff_eq] at sign
  rcases sign with (rfl | rfl) | rfl
  · rfl
  · rfl
  · rfl

theorem lexemesOf_sign (sign : isSign c) : lexemesOf (c :: cs) = .sign c :: lexemesOf cs := by
  rw [lexemesOf, if_neg (by simp [not_isBlank_of_isSign sign]), if_pos sign]

theorem lexemesOf_ink (ink : isInk c) :
    lexemesOf (c :: cs) =
      if opensWord cs then extendWord c (lexemesOf cs) else .word [c] :: lexemesOf cs := by
  simp only [isInk, Bool.and_eq_true, Bool.not_eq_true'] at ink
  rw [lexemesOf, if_neg (by simp [ink.1]), if_neg (by simp [ink.2])]

/-- Characters that start with a word have a first lexeme. -/
theorem lexemesOf_ne_nil (opens : opensWord cs) : lexemesOf cs ≠ [] := by
  cases cs with
  | nil => cases opens
  | cons c cs =>
    rw [lexemesOf_ink opens]
    split
    · rw [extendWord.eq_def]
      split
      · exact List.cons_ne_nil _ _
      · exact List.cons_ne_nil _ _
    · exact List.cons_ne_nil _ _

theorem extendWord_append {ls : List Lexeme} (given : ls ≠ []) (ms : List Lexeme) :
    extendWord c (ls ++ ms) = extendWord c ls ++ ms := by
  cases ls with
  | nil => exact absurd rfl given
  | cons l ls =>
    cases l with
    | word w => rfl
    | sign d => rfl

/-- Where no word starts behind the cut, none runs across it. -/
theorem lexemesOf_append (cut : opensWord ds = false) (cs : List Char) :
    lexemesOf (cs ++ ds) = lexemesOf cs ++ lexemesOf ds := by
  induction cs with
  | nil => rfl
  | cons c cs ih =>
    rw [List.cons_append]
    by_cases blank : isBlank c
    · rw [lexemesOf_blank blank, lexemesOf_blank blank, ih]
    · by_cases sign : isSign c
      · rw [lexemesOf_sign sign, lexemesOf_sign sign, ih, List.cons_append]
      · have ink : isInk c := by simp [isInk, blank, sign]
        -- at the cut itself a word in front has to end
        have opens : opensWord (cs ++ ds) = opensWord cs := by
          cases cs with
          | nil => exact cut
          | cons d cs => rfl
        rw [lexemesOf_ink ink, lexemesOf_ink ink, opens, ih]
        split
        · next starts => rw [extendWord_append (lexemesOf_ne_nil starts)]
        · rfl

/-- Characters of words without a cut are one word. -/
theorem lexemesOf_word (given : cs ≠ []) (ink : ∀ c ∈ cs, isInk c) : lexemesOf cs = [.word cs] := by
  induction cs with
  | nil => exact absurd rfl given
  | cons c cs ih =>
    rw [List.forall_mem_cons] at ink
    rw [lexemesOf_ink ink.1]
    cases cs with
    | nil => rfl
    | cons d ds =>
      have opens : opensWord (d :: ds) := ink.2 d List.mem_cons_self
      rw [if_pos opens, ih (List.cons_ne_nil d ds) ink.2]
      rfl

/-! ### Texts -/

theorem lexemes_blank (s t : String) : lexemes (s ++ (" " ++ t)) = lexemes s ++ lexemes t := by
  have rest : (" " ++ t).toList = ' ' :: t.toList := String.toList_append
  rw [lexemes, String.toList_append, rest, lexemesOf_append rfl, lexemesOf_blank rfl, lexemes,
    lexemes]

theorem lexemes_open (t : String) : lexemes ("(" ++ t) = .sign '(' :: lexemes t := by
  have whole : ("(" ++ t).toList = '(' :: t.toList := String.toList_append
  rw [lexemes, whole, lexemesOf_sign rfl, lexemes]

theorem lexemes_close (s : String) : lexemes (s ++ ")") = lexemes s ++ [.sign ')'] := by
  rw [lexemes, String.toList_append, lexemesOf_append rfl, lexemes]
  rfl

theorem lexemes_comma (s t : String) :
    lexemes (s ++ (", " ++ t)) = lexemes s ++ .sign ',' :: lexemes t := by
  have rest : (", " ++ t).toList = ',' :: ' ' :: t.toList := String.toList_append
  rw [lexemes, String.toList_append, rest, lexemesOf_append rfl, lexemesOf_sign rfl,
    lexemesOf_blank rfl, lexemes, lexemes]

/-! ### Words -/

/-- The code points of blanks. -/
def blankPoints : List Nat :=
  [9, 10, 11, 12, 13, 0x20, 0x85, 0xA0, 0x1680, 0x2000, 0x2001, 0x2002, 0x2003, 0x2004, 0x2005,
    0x2006, 0x2007, 0x2008, 0x2009, 0x200A, 0x2028, 0x2029, 0x202F, 0x205F, 0x3000]

theorem toNat_mem_blankPoints (blank : isBlank c) : c.toNat ∈ blankPoints := by
  simp only [isBlank, Bool.or_eq_true, Bool.and_eq_true, decide_eq_true_eq, beq_iff_eq] at blank
  simp only [blankPoints, List.mem_cons, List.not_mem_nil, or_false]
  omega

/-- A class without blanks and signs holds characters of words only. -/
theorem isInk_of_class {p : Char → Bool} (blanks : ∀ n ∈ blankPoints, p (Char.ofNat n) = false)
    (signs : p '(' = false ∧ p ')' = false ∧ p ',' = false) (member : p c) : isInk c := by
  have notBlank : isBlank c = false := by
    by_contra blank
    -- a blank is one of a few code points, and the class has none of them
    have other := blanks _ (toNat_mem_blankPoints (by simpa using blank))
    rw [Char.ofNat_toNat, member] at other
    cases other
  have notSign : isSign c = false := by
    by_contra sign
    simp only [isSign, Bool.not_eq_false, Bool.or_eq_true, beq_iff_eq] at sign
    rcases sign with (rfl | rfl) | rfl
    · rw [signs.1] at member
      cases member
    · rw [signs.2.1] at member
      cases member
    · rw [signs.2.2] at member
      cases member
  simp [isInk, notBlank, notSign]

/-- A text of one word. -/
def isWord (s : String) : Bool :=
  !s.isEmpty && s.toList.all isInk

theorem isWord_iff : isWord s ↔ s ≠ "" ∧ ∀ c ∈ s.toList, isInk c := by
  simp [isWord]

theorem lexemes_of_isWord (word : isWord s) : lexemes s = [.word s.toList] := by
  obtain ⟨given, ink⟩ := isWord_iff.mp word
  exact lexemesOf_word (by simpa using given) ink

/-- Does the character continue an identifier, or is it a point? -/
def isPathChar (c : Char) : Bool :=
  continuesIdentifier c || c == '.'

/-- A word of characters of identifiers and of points. -/
def isPath (s : String) : Bool :=
  !s.isEmpty && s.toList.all isPathChar

theorem isInk_of_isPathChar (member : isPathChar c) : isInk c :=
  isInk_of_class (by decide +kernel) (by decide +kernel) member

theorem isInk_of_isFigure (member : isFigure c) : isInk c :=
  isInk_of_class (by decide) (by decide) member

theorem isWord_of_isPath (path : isPath s) : isWord s := by
  simp only [isPath, Bool.and_eq_true, Bool.not_eq_true', List.all_eq_true] at path
  exact isWord_iff.mpr ⟨by simpa using path.1, fun c member => isInk_of_isPathChar (path.2 c member)⟩

theorem isWord_of_figures (given : s ≠ "") (figures : Figures s.toList) : isWord s :=
  isWord_iff.mpr ⟨given, fun c member => isInk_of_isFigure (figures c member)⟩

end Text

/-! ### Members of lists -/

namespace NumberStyle

theorem writePositional_ne_nil {digits : List Char} (given : digits ≠ []) (pointZero : Bool)
    (exponent : Int) : writePositional pointZero digits exponent ≠ [] := by
  rw [writePositional]
  split
  · simp [given]
  · dsimp only
    split
    · simp
    · simp

/-- Numbers are not written as nothing. -/
theorem write_ne_empty {style : NumberStyle} {negative : Bool} {significand : Nat}
    {exponent : Int} : style.write negative significand exponent ≠ "" := by
  intro empty
  rw [write, String.ofList_eq_empty_iff] at empty
  dsimp only at empty
  -- a sign is something, and so are digits in any notation
  split at empty
  · cases empty
  · split at empty
    · exact writePositional_ne_nil (List.cons_ne_nil '0' []) _ _ empty
    · split at empty
      · exact writePositional_ne_nil Nat.toDigits_ne_nil _ _ empty
      · simp [writeScientific] at empty

end NumberStyle

theorem Json.intText_ne_empty (i : Int) : intText i ≠ "" := by
  intro empty
  rw [intText, String.ofList_eq_empty_iff] at empty
  split at empty
  · cases empty
  · exact Nat.toDigits_ne_nil empty

theorem LiteralStyle.literal_ne_empty {style : LiteralStyle} {v : Value} {text : String}
    (safe : Literal.isSafe v) (written : style.literal v = .ok text) : text ≠ "" := by
  cases v with
  | int i =>
    rw [← Except.ok.inj written]
    exact Json.intText_ne_empty _
  | bool b =>
    rw [← Except.ok.inj written]
    cases style <;> cases b <;> decide
  | float x =>
    cases x with
    | finite negative significand exponent =>
      rw [← Except.ok.inj written]
      exact NumberStyle.write_ne_empty
    | nan => cases written
    | infinity negative => cases written
  | null | constant | moment | date | text | json => cases safe

/-- A member of a list is one word: a number, a truth value or a placeholder. -/
theorem Dialect.isWord_member {d : Dialect} {v : Value} {piece : Piece}
    (ok : d.member v = .ok piece) : Text.isWord piece.sql := by
  rw [member] at ok
  split at ok
  · next safe =>
    obtain ⟨text, written, rfl⟩ := Outcome.map_eq_ok.mp ok
    exact Text.isWord_of_figures (LiteralStyle.literal_ne_empty safe written)
      (LiteralStyle.figures_literal safe written)
  · rw [← Except.ok.inj ok, Piece.sql]
    decide

end BoundQuery
