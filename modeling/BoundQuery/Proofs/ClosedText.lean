import BoundQuery.Proofs.ComparisonSides
import BoundQuery.Proofs.KeyExpressions

/-!
# Texts that do not break off

A text ends open when it ends in a blank or in a keyword that opens a clause, so that something is
missing behind it. A script that does not end open resolves to a text that does not, where the names
of the catalog do not; conditions, literals and lists end like their last part.

## Main definitions

* `Text.lastWord`, the characters behind the last blank
* `Text.endsOpen`, `Text.Closed`, texts that end open, and others
* `Condition.Closes`, leaves with closed scripts and expressions

## Main results

* `Scope.closed_key`, `Scope.closed_script` — resolution keeps texts closed
* `LiteralStyle.closed_literal` — literals are closed
* `Filter.closed_lay` — conditions behind WHERE are closed
-/

namespace BoundQuery

namespace Text

/-- The characters behind the last blank. -/
def lastWord (cs : List Char) : List Char :=
  (cs.reverse.takeWhile fun c => !isBlank c).reverse

/-- What stands last in a text that breaks off: nothing, or the end of a keyword. -/
def openWords : List (List Char) :=
  ["", "SELECT", "FROM", "WHERE", "BY", "HAVING"].map String.toList

/-- Does the text end in a blank, or in a keyword that opens a clause? -/
def endsOpen (s : String) : Bool :=
  openWords.contains (lastWord s.toList)

/-- The text ends neither in a blank nor in a keyword that opens a clause. -/
def Closed (s : String) : Prop :=
  endsOpen s = false

/-- A character of no blank and of no keyword. -/
def isForeign (c : Char) : Bool :=
  !isBlank c && !openWords.flatten.contains c

variable {cs ds : List Char} {c : Char} {s t : String}

theorem lastWord_append_solid (cs : List Char) (solid : ∀ c ∈ ds, isBlank c = false) :
    lastWord (cs ++ ds) = lastWord cs ++ ds := by
  have ink : ∀ c ∈ ds.reverse, (!isBlank c) = true := by
    intro c member
    rw [solid c (List.mem_reverse.mp member)]
    rfl
  rw [lastWord, List.reverse_append, List.takeWhile_append_of_pos ink, List.reverse_append,
    List.reverse_reverse, lastWord]

theorem lastWord_of_solid (solid : ∀ c ∈ ds, isBlank c = false) : lastWord ds = ds :=
  lastWord_append_solid [] solid

/-- What stands before a blank is of no account. -/
theorem lastWord_append_blank (blank : isBlank c) (cs ds : List Char) :
    lastWord (cs ++ c :: ds) = lastWord ds := by
  rw [lastWord, List.reverse_append, List.reverse_cons, List.append_assoc, List.singleton_append,
    List.takeWhile_append, List.takeWhile_cons_of_neg (by simp [blank]), List.append_nil]
  split
  · next whole => rw [lastWord, (List.takeWhile_prefix _).eq_of_length whole]
  · rfl

theorem endsOpen_append_blank (s t : String) : endsOpen (s ++ " " ++ t) = endsOpen t := by
  have chars : (s ++ " " ++ t).toList = s.toList ++ ' ' :: t.toList := by
    simp
  rw [endsOpen, chars, lastWord_append_blank rfl, endsOpen]

theorem closed_append_blank (s : String) (closed : Closed t) : Closed (s ++ " " ++ t) := by
  rw [Closed, endsOpen_append_blank]
  exact closed

/-- A last word with a foreign character is no keyword. -/
theorem closed_of_mem (member : c ∈ lastWord s.toList) (foreign : isForeign c) : Closed s := by
  rw [Closed, endsOpen, Bool.eq_false_iff, ne_eq, List.contains_iff_mem]
  intro isOpen
  have letter : c ∈ openWords.flatten := List.mem_flatten.mpr ⟨_, isOpen, member⟩
  rw [isForeign, List.contains_iff_mem.mpr letter, Bool.not_true, Bool.and_false] at foreign
  cases foreign

/-- A foreign character closes the text that it ends, also with solid text behind it. -/
theorem closed_around (s : String) {mark : String} (single : mark.toList = [c])
    (foreign : isForeign c) (rest : Solid t ∨ Closed t) : Closed (s ++ mark ++ t) := by
  have ink : isBlank c = false := by
    rw [isForeign, Bool.and_eq_true, Bool.not_eq_true'] at foreign
    exact foreign.1
  have chars : (s ++ mark ++ t).toList = s.toList ++ [c] ++ t.toList := by
    rw [String.toList_append, String.toList_append, single]
  by_cases solid : Solid t
  · refine closed_of_mem ?_ foreign
    rw [chars, lastWord_append_solid _ solid, lastWord_append_solid _ (by simp [ink])]
    simp
  · -- the last blank stands in the text behind
    have closed := rest.resolve_left solid
    obtain ⟨b, member, blank⟩ : ∃ b ∈ t.toList, isBlank b = true := by
      simpa [Solid] using solid
    obtain ⟨before, after, parts⟩ := List.append_of_mem member
    rw [Closed, endsOpen, parts, lastWord_append_blank blank] at closed
    rw [Closed, endsOpen, chars, parts, ← List.append_assoc, lastWord_append_blank blank]
    exact closed

theorem closed_append_foreign (s mark : String) (single : mark.toList = [c])
    (foreign : isForeign c) : Closed (s ++ mark) := by
  have closed := closed_around (t := "") s single foreign (.inl fun c member => by cases member)
  rwa [String.append_empty] at closed

theorem closed_of_solid (solid : Solid s) (member : c ∈ s.toList) (foreign : isForeign c) :
    Closed s :=
  closed_of_mem (by rwa [lastWord_of_solid solid]) foreign

/-- Texts in a row end like the last of them. -/
theorem endsOpen_joinWith {separator front : String} (spaced : separator = front ++ " ")
    (before : List String) (s : String) :
    endsOpen (joinWith separator (before ++ [s])) = endsOpen s := by
  induction before with
  | nil => rfl
  | cons b before ih =>
    rw [List.cons_append, joinWith, spaced, ← String.append_assoc, endsOpen_append_blank, ← spaced,
      ih]
    simp

theorem solid_of_mem_lastWord (member : c ∈ lastWord cs) : isBlank c = false := by
  rw [lastWord, List.mem_reverse] at member
  simpa using List.mem_takeWhile_imp member

/-- In front of the last word stands nothing, or a text that ends in a blank. -/
theorem eq_append_lastWord (cs : List Char) :
    cs = lastWord cs ∨ ∃ before b, isBlank b ∧ cs = before ++ b :: lastWord cs := by
  generalize isFront : (cs.reverse.dropWhile fun c => !isBlank c).reverse = front
  have parts : cs = front ++ lastWord cs := by
    rw [← isFront, lastWord, ← List.reverse_append, List.takeWhile_append_dropWhile,
      List.reverse_reverse]
  rcases List.eq_nil_or_concat' front with rfl | ⟨before, b, rfl⟩
  · exact .inl parts
  · have head := List.head?_dropWhile_not (fun c => !isBlank c) cs.reverse
    rw [List.reverse_eq_iff.mp isFront, List.reverse_append] at head
    refine .inr ⟨before, b, by simpa using head, ?_⟩
    rwa [List.append_assoc, List.singleton_append] at parts

/-- The last word of a closed text is closed. -/
theorem words_of_closed (closed : Closed (trim s)) :
    ∃ front w, words s = front ++ [w] ∧ Closed w := by
  rw [← Source.words_trim, words]
  rw [Closed, endsOpen] at closed
  generalize (trim s).toList = cs at closed ⊢
  have solid : ∀ c ∈ lastWord cs, isBlank c = false := fun c member => solid_of_mem_lastWord member
  have given : lastWord cs ≠ [] := by
    intro none
    rw [none] at closed
    cases closed
  have last : Closed (String.ofList (lastWord cs)) := by
    rwa [Closed, endsOpen, String.toList_ofList, lastWord_of_solid solid]
  rcases eq_append_lastWord cs with whole | ⟨before, b, blank, parts⟩
  · refine ⟨[], _, ?_, last⟩
    rw [List.nil_append, ← List.map_singleton, ← wordsOf_of_solid given solid, ← whole]
  · refine ⟨(wordsOf before).map String.ofList, _, ?_, last⟩
    have cut : startsBlank (b :: lastWord cs) := blank
    have ofWords : wordsOf cs = wordsOf before ++ [lastWord cs] := by
      conv_lhs => rw [parts]
      rw [wordsOf_append cut, wordsOf_blank blank, wordsOf_of_solid given solid]
    rw [ofWords, List.map_append, List.map_singleton]

end Text

open Text

theorem Text.solid_of_isIdentifier {name : String} (identifier : isIdentifier name) :
    Solid name :=
  fun c member => (Scope.isBare_iff.mp (Scope.isBare_of_isIdentifier identifier c member)).1

/-! ### Resolution -/

theorem Scope.NamedBy.imp {P Q : String → Prop} {s : Scope} (names : s.NamedBy P)
    (imp : ∀ t, P t → Q t) : s.NamedBy Q where
  catalog e member :=
    ⟨imp _ (names.catalog e member).table, fun q known =>
      imp _ ((names.catalog e member).columns q known)⟩
  entity := ⟨imp _ names.entity.table, fun q known => imp _ (names.entity.columns q known)⟩

namespace Scope

variable {s : Scope} {text sql w : String} {cs outer core trailer : List Char}

/-- A key stays as it is, but for outer blanks, or resolves to a closed text. -/
theorem closed_key (names : s.NamedBy Closed) (resolved : s.key text = .ok sql) :
    sql = trim text ∨ Closed sql := by
  rw [key] at resolved
  split at resolved
  · next qualifier property cut =>
    split at resolved
    · next identifiers =>
      obtain ⟨e, found, result⟩ := Outcome.bind_eq_ok.mp resolved
      rw [Bool.and_eq_true] at identifiers
      refine .inr ?_
      rw [← Outcome.pure_eq_ok.mp result]
      refine closed_around _ (c := '.') rfl rfl ?_
      cases column : e.column? property with
      | none => exact .inl (solid_of_isIdentifier identifiers.2)
      | some name =>
        obtain ⟨p, known, rfl⟩ := Option.map_eq_some_iff.mp column
        have closed := (names.qualified found).columns _ (Dictionary.mem_of_find? known)
        exact .inr closed
    · exact .inl (Except.ok.inj resolved).symm
  · rw [← Except.ok.inj resolved]
    have either := names.imp (Q := fun t => t = trim text ∨ Closed t) fun t closed => .inr closed
    exact either.simpleKey (.inl rfl)

/-- What stands before the key of a token ends in a parenthesis, and what stands behind it is
punctuation. -/
theorem ends_of_tokenParts (parts : tokenParts cs = (outer, core, trailer)) :
    (outer = [] ∨ ∃ front, outer = front ++ ['(']) ∧ ∀ c ∈ trailer, isTrailer c := by
  rw [tokenParts] at parts
  obtain ⟨isOuter, -, isTrailing⟩ : _ ∧ _ ∧ _ := by simpa only [Prod.mk.injEq] using parts
  constructor
  · rcases List.eq_nil_or_concat' outer with rfl | ⟨front, c, rfl⟩
    · exact .inl rfl
    · refine .inr ⟨front, ?_⟩
      have head := List.head?_dropWhile_not (fun c => c != '(') cs.reverse
      rw [List.reverse_eq_iff.mp isOuter, List.reverse_append] at head
      obtain rfl : c = '(' := by simpa using head
      rfl
  · intro c member
    rw [← isTrailing, List.mem_reverse] at member
    exact List.mem_takeWhile_imp member

/-- A closed token resolves to a closed text. -/
theorem closed_token (names : s.NamedBy Closed) (solid : Solid w) (closed : Closed w)
    (resolved : s.token w = .ok sql) : Closed sql := by
  have whole := tokenParts_append w.toList
  rw [token] at resolved
  split at resolved
  · rw [← Except.ok.inj resolved]
    exact closed
  · next outer core trailer isCore parts =>
    obtain ⟨key, found, result⟩ := Outcome.bind_eq_ok.mp resolved
    obtain ⟨opens, ends⟩ := ends_of_tokenParts parts
    rw [parts] at whole
    dsimp only at whole
    rw [← Outcome.pure_eq_ok.mp result]
    rcases List.eq_nil_or_concat' trailer with rfl | ⟨front, c, rfl⟩
    · have same : String.ofList outer ++ String.ofList core = w := by
        rw [← String.toList_inj, String.toList_append, String.toList_ofList, String.toList_ofList,
          ← whole, List.append_nil]
      have solidCore : Solid (String.ofList core) := by
        intro c member
        exact solid c (by rw [← same]; simpa using .inr (by simpa using member))
      rw [show String.ofList [] = "" from rfl, String.append_empty]
      rcases closed_key names found with unchanged | closedKey
      · rw [unchanged, trim_of_solid solidCore, same]
        exact closed
      · rcases opens with rfl | ⟨front, rfl⟩
        · rw [show String.ofList [] = "" from rfl, String.empty_append]
          exact closedKey
        · rw [String.ofList_append]
          exact closed_around _ (c := '(') String.toList_ofList rfl (.inr closedKey)
    · -- punctuation behind the key ends the token
      have isTrailing := ends c (by simp)
      have foreign : isForeign c := by
        rw [isTrailer, Bool.or_eq_true, Bool.or_eq_true, beq_iff_eq, beq_iff_eq, beq_iff_eq]
          at isTrailing
        rcases isTrailing with (rfl | rfl) | rfl <;> rfl
      rw [String.ofList_append, ← String.append_assoc]
      exact closed_append_foreign _ _ String.toList_ofList foreign

/-- A closed script resolves to a closed text. -/
theorem closed_script (names : s.NamedBy Closed) (closed : Closed (trim text))
    (resolved : s.script text = .ok sql) : Closed sql := by
  obtain ⟨front, w, last, closedWord⟩ := words_of_closed closed
  have solid : Solid w := (solid_of_mem_words (s := text) (by rw [last]; simp)).2
  obtain ⟨tokens, each, result⟩ := Outcome.bind_eq_ok.mp resolved
  rw [last, List.mapM_append] at each
  obtain ⟨before, -, each⟩ := Outcome.bind_eq_ok.mp each
  obtain ⟨ends, each, both⟩ := Outcome.bind_eq_ok.mp each
  rw [List.mapM_cons, List.mapM_nil] at each
  obtain ⟨t, found, each⟩ := Outcome.bind_eq_ok.mp each
  obtain rfl : [t] = ends := Outcome.pure_eq_ok.mp each
  rw [← Outcome.pure_eq_ok.mp result, ← Outcome.pure_eq_ok.mp both, Closed,
    endsOpen_joinWith String.empty_append.symm]
  exact closed_token names solid closedWord found

end Scope

/-! ### Literals -/

theorem exists_digit_toDigits (n : Nat) : ∃ c ∈ Nat.toDigits 10 n, c.isDigit := by
  obtain ⟨c, member⟩ := List.exists_mem_of_ne_nil _ (Nat.toDigits_ne_nil (n := n) (b := 10))
  exact ⟨c, member, Nat.isDigit_of_mem_toDigits (by decide) (by decide) member⟩

/-- A number without an exponent holds its digits. -/
theorem NumberStyle.mem_writePositional {pointZero : Bool} {digits : List Char} {exponent : Int}
    {c : Char} (member : c ∈ digits) : c ∈ writePositional pointZero digits exponent := by
  rw [writePositional]
  split
  · simp [member]
  · dsimp only
    split
    · rw [← List.take_append_drop (digits.length - (-exponent).toNat) digits] at member
      simpa using (List.mem_append.mp member).imp_right .inr
    · simp [member]

namespace Literal

theorem exists_digit_write {negative : Bool} {significand : Nat} {exponent : Int} :
    ∃ c ∈ (floatStyle.write negative significand exponent).toList, c.isDigit := by
  obtain ⟨c, inBody, digit⟩ : ∃ c ∈ (if significand = 0 then
      NumberStyle.writePositional floatStyle.pointZero ['0'] 0
    else
      let d := Decimal.shortest floatStyle.tie significand exponent
      NumberStyle.writePositional floatStyle.pointZero (Nat.toDigits 10 d.digits) d.exponent),
      c.isDigit := by
    split
    · exact ⟨'0', NumberStyle.mem_writePositional (by simp), rfl⟩
    · obtain ⟨c, member, digit⟩ := exists_digit_toDigits _
      exact ⟨c, NumberStyle.mem_writePositional member, digit⟩
  refine ⟨c, ?_, digit⟩
  rw [NumberStyle.write, String.toList_ofList]
  split
  · exact List.mem_cons_of_mem _ inBody
  · exact inBody

theorem exists_digit_intText (i : Int) : ∃ c ∈ (Json.intText i).toList, c.isDigit := by
  rw [Json.intText, String.toList_ofList]
  obtain ⟨c, member, digit⟩ := exists_digit_toDigits i.natAbs
  refine ⟨c, ?_, digit⟩
  split
  · exact List.mem_cons_of_mem _ member
  · exact member

/-- Figures with a digit among them are closed. -/
theorem closed_of_digit {text : String} (figures : Figures text.toList)
    (held : ∃ c ∈ text.toList, c.isDigit) : Closed text := by
  obtain ⟨c, member, digit⟩ := held
  have solid : Solid text := by
    intro c member
    have ink := isInk_of_isFigure (figures c member)
    rw [isInk, Bool.and_eq_true, Bool.not_eq_true'] at ink
    exact ink.1
  refine closed_of_solid solid member ?_
  have letters : openWords.flatten.all (fun c => !c.isDigit) := by decide +kernel
  rw [isForeign, solid c member, Bool.not_false, Bool.true_and, Bool.not_eq_true',
    Bool.eq_false_iff, ne_eq, List.contains_iff_mem]
  intro letter
  have none := List.all_eq_true.mp letters c letter
  rw [digit] at none
  cases none

end Literal

namespace LiteralStyle

variable {style : LiteralStyle} {v : Value} {text : String}

theorem closed_quoted (style : LiteralStyle) (s : String) : Closed (style.quoted s) :=
  closed_append_foreign _ "'" rfl rfl

/-- A literal is closed. -/
theorem closed_literal (written : style.literal v = .ok text) : Closed text := by
  cases v with
  | null => rw [← Except.ok.inj written]; rfl
  | bool b =>
    rw [← Except.ok.inj written]
    cases style <;> cases b <;> rfl
  | int i =>
    rw [← Except.ok.inj written]
    exact Literal.closed_of_digit Json.figures_intText (Literal.exists_digit_intText _)
  | float x =>
    cases x with
    | finite negative significand exponent =>
      rw [← Except.ok.inj written]
      exact Literal.closed_of_digit NumberStyle.figures_write Literal.exists_digit_write
    | nan => cases written
    | infinity negative => cases written
  | json j =>
    cases j with
    | null => rw [← Except.ok.inj written]; rfl
    | _ =>
      rw [← Except.ok.inj written]
      exact closed_quoted style _
  | constant | moment | date | text =>
    rw [← Except.ok.inj written]
    exact closed_quoted style _

end LiteralStyle

/-- A condition on an aggregate is closed: it ends in a literal or a list of literals. -/
theorem Having.closed_rest {d : Dialect} {h : Having} {operand : Operand} {text : String}
    (ok : h.rest d operand = .ok text) : Closed text := by
  unfold rest at ok
  -- the operand decides: a range, a list, a single value, or one of the wrong kind
  split at ok
  · obtain ⟨low, -, ok⟩ := Outcome.bind_eq_ok.mp ok
    obtain ⟨high, ofMax, ok⟩ := Outcome.bind_eq_ok.mp ok
    rw [← Outcome.pure_eq_ok.mp ok, show " AND " = " AND" ++ " " from rfl, ← String.append_assoc]
    exact closed_append_blank _ (LiteralStyle.closed_literal ofMax)
  · split at ok
    · obtain ⟨literals, -, ok⟩ := Outcome.bind_eq_ok.mp ok
      split at ok
      · cases ok
      · rw [← Outcome.pure_eq_ok.mp ok]
        exact closed_append_foreign _ ")" rfl rfl
    · cases ok
  · split at ok
    · obtain ⟨literal, written, ok⟩ := Outcome.bind_eq_ok.mp ok
      rw [← Outcome.pure_eq_ok.mp ok]
      exact closed_append_blank _ (LiteralStyle.closed_literal written)
    · cases ok
  · cases ok

/-! ### Conditions -/

/-- The script of the leaf is closed, and so is the expression that it compares with. -/
structure Condition.Closes (c : Condition) : Prop where
  script : c.predicate.shape = .script → Inked c.key → Closed (trim c.key)
  expression : c.predicate.shape = .single → ∀ e, c.expression? = some e → Closed (trim e)

namespace Filter

variable {f : Filter} {c : Condition} {cs : List Condition} {ts : List Term} {b : Fragment}

theorem EmitsRest.closed (names : f.scope.NamedBy Closed) (closes : c.Closes) {operand : Operand}
    (given : c.operand = some operand) (emits : EmitsRest f c operand b) : Closed b.sql := by
  cases emits with
  | members shape are written =>
    obtain ⟨pieces, -, rfl⟩ := Dialect.memberList_eq_ok written
    have ends := closed_append_foreign (c.predicate.sql ++ (" " ++ ("(" ++
      Fragment.sql (Fragment.joined ", " (pieces.map fun p => [p]))))) ")" rfl rfl
    simpa [Piece.sql, String.append_assoc] using ends
  | range shape => exact (rfl : endsOpen "BETWEEN ? AND ?" = false)
  | @expression v e sql shape inlined resolved =>
    have isExpression : c.expression? = some e := by
      rw [Condition.expression?, given]
      exact inlined
    have ends := closed_append_blank c.predicate.sql
      (Scope.closed_script names (closes.expression shape e isExpression) resolved)
    simpa [Piece.sql, String.append_assoc] using ends
  | value shape isBound =>
    have ends := closed_append_blank c.predicate.sql (t := "?") rfl
    simpa [Piece.sql, String.append_assoc] using ends

/-- The body of a leaf is closed. -/
theorem Emits.closed (names : f.scope.NamedBy Closed) (closes : c.Closes) (emits : f.Emits c b) :
    Closed b.sql := by
  cases emits with
  | @script sql shape resolved given =>
    have inked : Inked c.key := by
      by_contra blank
      rw [Scope.script_of_blank (not_inked_iff.mp blank)] at resolved
      exact given (Except.ok.inj resolved).symm
    have text := Scope.closed_script names (closes.script shape inked) resolved
    simpa [Piece.sql] using text
  | @nullCheck sql shape given resolved =>
    have check : Closed c.predicate.sql := by
      generalize c.predicate = p at shape ⊢
      cases p with
      | isNull | isNotNull => rfl
      | _ => cases shape
    have ends := closed_append_blank sql check
    simpa [Piece.sql, String.append_assoc] using ends
  | @comparison operand key rest shape given present some resolved follows =>
    have ends := closed_append_blank key (follows.closed names closes given)
    simpa [Piece.sql, String.append_assoc] using ends

/-- The bodies of conditions are closed; those of groups by their parentheses. -/
theorem closed_terms (names : f.scope.NamedBy Closed)
    (closes : ∀ leaf ∈ Condition.leaves cs, leaf.Closes) (ok : f.terms cs = .ok ts) :
    ∀ t ∈ ts, Closed (Fragment.sql t.body) := by
  refine forall_terms (P := fun b => Closed b.sql)
    (fun leaf member b emits => emits.closed names (closes leaf member)) ?_ ok
  intro ts b _ closed
  cases ts with
  | nil => cases closed
  | cons t ts =>
    have ends := closed_append_foreign ("(" ++
      Fragment.sql (Position.groupFirst.lay (t :: ts))) ")" rfl rfl
    rw [← Option.some.inj closed]
    simpa [Piece.sql, String.append_assoc] using ends

/-- Closed terms behind WHERE are closed: the last of them ends the row. -/
theorem closed_lay {t : Term} (each : ∀ u ∈ t :: ts, Closed (Fragment.sql u.body)) :
    Closed (Fragment.sql (Position.whereFirst.lay (t :: ts))) := by
  rw [Position.lay, Position.lead]
  rcases List.eq_nil_or_concat' ts with rfl | ⟨front, u, rfl⟩
  · have ends := closed_append_blank "WHERE" (each t List.mem_cons_self)
    simpa [Piece.sql] using ends
  · have last : Closed (Fragment.sql u.body) := each u (by simp)
    have led : ∃ word, Fragment.sql (.text " " :: Position.joining u.conjunction) =
        word ++ " " := by
      cases u.conjunction with
      | none => exact ⟨"", rfl⟩
      | some c => exact ⟨" " ++ c.sql, by simp [Position.joining, Piece.sql, String.append_assoc]⟩
    obtain ⟨word, led⟩ := led
    rw [List.flatMap_append, List.flatMap_singleton, ← List.append_assoc, Fragment.sql_append,
      Fragment.sql_append (.text " " :: Position.joining u.conjunction), led, ← String.append_assoc,
      ← String.append_assoc]
    exact closed_append_blank _ last

end Filter

end BoundQuery
