import BoundQuery.Statement.Literal

/-!
# Quoted text is read back

A reader of SQL literals takes the characters behind an opening quote up to a lone closing quote; a
doubled quote and escapes with a backslash stand for characters. Text quoted in either style is one
literal for it and denotes the text, whatever characters the text holds.

## Main definitions

* `Literal.read?`, the literal at the start of a text, with what follows it
* `LiteralStyle.image`, what one character becomes inside quotes
* `Value.quotedText?`, the text that the literal of a value denotes

## Main results

* `LiteralStyle.toList_escape` — replacements over the whole text act on each character
* `Literal.inside?_image` — an image is read as its character
* `LiteralStyle.read?_literal` — quoted texts and literals of values are read back
-/

namespace BoundQuery

/-! ### Reading literals -/

namespace Literal

/-- The character that one behind a backslash stands for. -/
def unescaped? : Char → Option Char
  | '\\' => some '\\'
  | '\'' => some '\''
  | 'n' => some '\n'
  | 'r' => some '\r'
  | 't' => some '\t'
  | '0' => some (Char.ofNat 0)
  | _ => none

/-- The text of a literal from behind its opening quote, and what follows its closing quote. -/
def inside? : List Char → Option (List Char × List Char)
  | [] => none
  | '\'' :: '\'' :: cs => (inside? cs).map fun (text, rest) => ('\'' :: text, rest)
  | '\'' :: cs => some ([], cs)
  | ['\\'] => none
  | '\\' :: c :: cs =>
    match unescaped? c with
    | none => none
    | some d => (inside? cs).map fun (text, rest) => (d :: text, rest)
  | c :: cs => (inside? cs).map fun (text, rest) => (c :: text, rest)

/-- The literal at the start of a text: what it denotes, and what follows it. -/
def read? (s : String) : Option (String × String) :=
  match s.toList with
  | '\'' :: cs => (inside? cs).map fun (text, rest) => (String.ofList text, String.ofList rest)
  | _ => none

variable {cs : List Char}

theorem inside?_quote :
    inside? ('\'' :: '\'' :: cs) = (inside? cs).map fun (text, rest) => ('\'' :: text, rest) := by
  rw [inside?]

theorem inside?_close (alone : cs.head? ≠ some '\'') : inside? ('\'' :: cs) = some ([], cs) := by
  rw [inside?]
  intro ds same
  exact alone (by rw [same]; rfl)

theorem inside?_escape {c d : Char} (stands : unescaped? c = some d) :
    inside? ('\\' :: c :: cs) = (inside? cs).map fun (text, rest) => (d :: text, rest) := by
  rw [inside?, stands]

theorem inside?_other {c : Char} (quote : c ≠ '\'') (backslash : c ≠ '\\') :
    inside? (c :: cs) = (inside? cs).map fun (text, rest) => (c :: text, rest) := by
  rw [inside?]
  · rintro ds same
    exact absurd same quote
  · exact quote
  · exact fun same _ => backslash same
  · exact fun d ds same => absurd same backslash

end Literal

/-! ### Characters inside quotes -/

namespace LiteralStyle

variable (style : LiteralStyle)

/-- One replacement on characters. -/
def replaced (r : Char × String) (d : Char) : List Char :=
  if d = r.1 then r.2.toList else [d]

/-- Replacements on characters, each over the whole list. -/
def replacedAll (rs : List (Char × String)) (cs : List Char) : List Char :=
  rs.foldl (fun cs r => cs.flatMap (replaced r)) cs

/-- What one character becomes inside quotes. -/
def image (c : Char) : List Char :=
  replacedAll style.replacements [c]

theorem replacedAll_cons (r : Char × String) (rs : List (Char × String)) (cs : List Char) :
    replacedAll (r :: rs) cs = replacedAll rs (cs.flatMap (replaced r)) := rfl

/-- Replacements over a whole list act on each of its characters alone. -/
theorem replacedAll_eq_flatMap (rs : List (Char × String)) (cs : List Char) :
    replacedAll rs cs = cs.flatMap fun c => replacedAll rs [c] := by
  induction rs generalizing cs with
  | nil => exact (List.flatMap_singleton' cs).symm
  | cons r rs ih =>
    have single : ∀ c, replacedAll (r :: rs) [c] =
        (replaced r c).flatMap fun d => replacedAll rs [d] := by
      intro c
      rw [replacedAll_cons, List.flatMap_cons, List.flatMap_nil, List.append_nil, ih]
    calc
      replacedAll (r :: rs) cs = replacedAll rs (cs.flatMap (replaced r)) := rfl
      _ = (cs.flatMap (replaced r)).flatMap fun d => replacedAll rs [d] := ih _
      _ = cs.flatMap fun c => (replaced r c).flatMap fun d => replacedAll rs [d] :=
        List.flatMap_assoc
      _ = cs.flatMap fun c => replacedAll (r :: rs) [c] := by simp only [single]

theorem toList_replacements (rs : List (Char × String)) (s : String) :
    (rs.foldl (fun t r => Text.replaceEach r.1 r.2 t) s).toList = replacedAll rs s.toList := by
  induction rs generalizing s with
  | nil => rfl
  | cons r rs ih =>
    rw [List.foldl_cons, ih, replacedAll_cons, Text.replaceEach, String.toList_ofList]
    rfl

/-- Escaping acts on each character alone, although each replacement runs over the images that the
ones before it gave. -/
theorem toList_escape (s : String) : (style.escape s).toList = s.toList.flatMap style.image := by
  rw [escape, toList_replacements, replacedAll_eq_flatMap]
  rfl

theorem replacedAll_other {rs : List (Char × String)} {c : Char} (other : ∀ r ∈ rs, c ≠ r.1) :
    replacedAll rs [c] = [c] := by
  induction rs with
  | nil => rfl
  | cons r rs ih =>
    rw [List.forall_mem_cons] at other
    have first : [c].flatMap (replaced r) = [c] := by
      rw [List.flatMap_cons, replaced, if_neg other.1]
      rfl
    rw [replacedAll_cons, first, ih other.2]

/-- A character becomes an escape, or a doubled quote, or stays as it is: no replacement touches the
images that the ones before it gave. -/
theorem image_cases (c : Char) :
    (∃ d, Literal.unescaped? d = some c ∧ style.image c = ['\\', d]) ∨
      (c = '\'' ∧ style.image c = ['\'', '\'']) ∨
      (c ≠ '\'' ∧ c ≠ '\\' ∧ style.image c = [c]) := by
  by_cases listed : ∃ r ∈ style.replacements, c = r.1
  · obtain ⟨r, member, rfl⟩ := listed
    cases style with
    | standard =>
      simp only [replacements, List.mem_cons, List.not_mem_nil, or_false] at member
      rcases member with rfl | rfl
      · exact .inl ⟨'\\', rfl, rfl⟩
      · exact .inr (.inl ⟨rfl, rfl⟩)
    -- the backslash goes first, before the others bring their own
    | backslash =>
      simp only [replacements, List.mem_cons, List.not_mem_nil, or_false] at member
      left
      rcases member with rfl | rfl | rfl | rfl | rfl | rfl
      · exact ⟨'\\', rfl, rfl⟩
      · exact ⟨'\'', rfl, rfl⟩
      · exact ⟨'n', rfl, rfl⟩
      · exact ⟨'r', rfl, rfl⟩
      · exact ⟨'t', rfl, rfl⟩
      · exact ⟨'0', rfl, rfl⟩
  · have other : ∀ r ∈ style.replacements, c ≠ r.1 :=
      fun r member same => listed ⟨r, member, same⟩
    -- both styles replace the backslash and the quote
    have quote : ∃ t, ('\'', t) ∈ style.replacements := by
      cases style <;> exact ⟨_, .tail _ (.head _)⟩
    have backslash : ∃ t, ('\\', t) ∈ style.replacements := by
      cases style <;> exact ⟨_, .head _⟩
    obtain ⟨t, ofQuote⟩ := quote
    obtain ⟨u, ofBackslash⟩ := backslash
    exact .inr (.inr ⟨other _ ofQuote, other _ ofBackslash, replacedAll_other other⟩)

end LiteralStyle

/-! ### Reading back -/

namespace Literal

variable {style : LiteralStyle}

/-- The image of a character is read as the character, whatever follows. -/
theorem inside?_image (c : Char) (cs : List Char) :
    inside? (style.image c ++ cs) = (inside? cs).map fun (text, rest) => (c :: text, rest) := by
  rcases style.image_cases c with ⟨d, stands, image⟩ | ⟨rfl, image⟩ | ⟨quote, backslash, image⟩
  · rw [image]
    exact inside?_escape stands
  · rw [image]
    exact inside?_quote
  · rw [image]
    exact inside?_other quote backslash

/-- Images up to a lone quote are read as their characters. -/
theorem inside?_images (cs : List Char) {rest : List Char} (alone : rest.head? ≠ some '\'') :
    inside? (cs.flatMap style.image ++ '\'' :: rest) = some (cs, rest) := by
  induction cs with
  -- the lone quote, as the rest does not start with one
  | nil => exact inside?_close alone
  | cons c cs ih => rw [List.flatMap_cons, List.append_assoc, inside?_image, ih]; rfl

/-- A quoted text is one literal, denotes the text, and leaves what follows it. -/
theorem read?_quoted (s : String) {rest : String} (alone : rest.toList.head? ≠ some '\'') :
    read? (style.quoted s ++ rest) = some (s, rest) := by
  have chars : (style.quoted s ++ rest).toList =
      '\'' :: (s.toList.flatMap style.image ++ '\'' :: rest.toList) := by
    simp [LiteralStyle.quoted, LiteralStyle.toList_escape]
  rw [read?, chars]
  simp only [inside?_images s.toList alone, Option.map_some, String.ofList_toList]

end Literal

/-- The text that the literal of a value denotes, where the literal is a quoted text. A JSON null is
written like any null. -/
def Value.quotedText? : Value → Option String
  | .text s => some s
  | .constant name => some name
  | .moment m => some m.spacedText
  | .date d => some d.text
  | .json .null => none
  | .json j => some j.compact
  | _ => none

namespace LiteralStyle

theorem literal_of_quotedText? {style : LiteralStyle} {v : Value} {text : String}
    (denoted : v.quotedText? = some text) : style.literal v = .ok (style.quoted text) := by
  cases v with
  | text | constant | moment | date =>
    cases denoted
    rfl
  | json j =>
    cases j with
    | null => cases denoted
    | bool | int | float | str | arr | obj =>
      cases denoted
      rfl
  | null | bool | int | float => cases denoted

/-- Quoted text cannot be escaped from. In either style, whatever characters a text holds, the
quoted text followed by anything but a quote is one literal that denotes the text; so is the literal
of each text, constant, moment, date and JSON document but null. -/
theorem read?_literal (style : LiteralStyle) :
    (∀ s rest : String, rest.toList.head? ≠ some '\'' →
      Literal.read? (style.quoted s ++ rest) = some (s, rest)) ∧
    (∀ v text, v.quotedText? = some text → ∃ literal, style.literal v = .ok literal ∧
      ∀ rest : String, rest.toList.head? ≠ some '\'' →
        Literal.read? (literal ++ rest) = some (text, rest)) := by
  constructor
  · intro s rest alone
    exact Literal.read?_quoted s alone
  · intro v text denoted
    refine ⟨style.quoted text, literal_of_quotedText? denoted, ?_⟩
    intro rest alone
    exact Literal.read?_quoted text alone

/-- An attempt to end a literal early, with a backslash at its end, and a name with a quote. -/
theorem read?_literal_attempt :
    Literal.read? (LiteralStyle.backslash.quoted "\\' OR '1'='1\n\x00\\" ++ " OR 1") =
        some ("\\' OR '1'='1\n\x00\\", " OR 1") ∧
      ∃ literal, LiteralStyle.standard.literal (.constant "O'Brien\\") = .ok literal ∧
        Literal.read? (literal ++ ")") = some ("O'Brien\\", ")") := by
  refine ⟨(read?_literal .backslash).1 _ _ (by decide), ?_⟩
  obtain ⟨literal, written, read⟩ := (read?_literal .standard).2 (.constant "O'Brien\\") _ rfl
  exact ⟨literal, written, read ")" (by decide)⟩

/-- A JSON null is written without quotes, so no literal is read there. -/
theorem literal_json_null : LiteralStyle.standard.literal (.json .null) = .ok "NULL" ∧
    Literal.read? "NULL" = none :=
  ⟨rfl, by decide⟩

end LiteralStyle

end BoundQuery
