import BoundQuery.Proofs.JsonNumbers
import BoundQuery.Proofs.WrittenValues

/-!
# JSON documents read back

The text of a document without blanks reads as that document, in front of anything that continues
no number. This takes the numbers of a document to be those that JSON can carry, and the names of
an object to be distinct; then all documents that are read are of this kind. Floating-point numbers
read back where their own texts do.

## Main definitions

* `Json.WellFormed`, the documents that can be read
* `Json.floats`, the floating-point numbers in a document
* `Json.ReadsBack`, a floating-point number whose text reads as that number

## Main results

* `Json.wellFormed_of_parse?` — what is read is well-formed
* `Json.parse?_compact` — a well-formed document reads back from its text
-/

namespace BoundQuery.Json

open Text

/-! ### Strings -/

theorem hexValue?_hexDigit : ∀ n < 16, hexValue? (hexDigit n) = some n := by
  decide

/-- An escaped character is read as the character, in one step. -/
theorem stringChars?_escaped (c : Char) (fuel : Nat) (before cs : List Char) :
    stringChars? (fuel + 1) before (escaped c ++ cs) = stringChars? fuel (c :: before) cs := by
  rw [escaped]
  split_ifs with quote slash eight twelve newline carriage tab control
  · rw [quote]; rfl
  · rw [slash]; rfl
  · obtain rfl : c = Char.ofNat 8 := by rw [← eight, Char.ofNat_toNat]
    rfl
  · obtain rfl : c = Char.ofNat 12 := by rw [← twelve, Char.ofNat_toNat]
    rfl
  · rw [newline]; rfl
  · rw [carriage]; rfl
  · rw [tab]; rfl
  · -- two zeros and the two digits of the character make up its unit
    have high := hexValue?_hexDigit (c.toNat / 16) (by omega)
    have low := hexValue?_hexDigit (c.toNat % 16) (by omega)
    have zero : hexValue? '0' = some 0 := by decide
    have value : ((0 * 16 + 0) * 16 + c.toNat / 16) * 16 + c.toNat % 16 = c.toNat := by omega
    have unit : escapedUnit? ('0' :: '0' :: hexDigit (c.toNat / 16) ::
        hexDigit (c.toNat % 16) :: cs) = some (c, cs) := by
      simp only [escapedUnit?, unit?, zero, high, low, bind, Option.bind, pure, value]
      rw [if_pos (by simp; omega), Char.ofNat_toNat]
    simp [stringChars?, escape?, unit]
  · simp [stringChars?, quote, slash, control]

theorem stringChars?_flatMap (s : List Char) {fuel : Nat} (enough : s.length < fuel)
    (before rest : List Char) :
    stringChars? fuel before (s.flatMap escaped ++ '"' :: rest) =
      some (before.reverse ++ s, rest) := by
  induction s generalizing fuel before with
  | nil =>
    obtain ⟨fuel, rfl⟩ : ∃ n, fuel = n + 1 := ⟨fuel - 1, by omega⟩
    simp [stringChars?]
  | cons c s ih =>
    obtain ⟨fuel, rfl⟩ : ∃ n, fuel = n + 1 := ⟨fuel - 1, by omega⟩
    rw [List.length_cons] at enough
    rw [List.flatMap_cons, List.append_assoc, stringChars?_escaped, ih (by omega)]
    simp

theorem length_escaped (c : Char) : 1 ≤ (escaped c).length := by
  rw [escaped]
  split_ifs <;> simp

/-- A string reads back from its quoted form. -/
theorem readString?_quoted (s : String) (rest : List Char) :
    readString? ((quoted s).toList ++ rest) = some (s, rest) := by
  have longer : s.toList.length ≤ (s.toList.flatMap escaped).length := by
    induction s.toList with
    | nil => exact Nat.le_refl 0
    | cons c cs ih =>
      rw [List.flatMap_cons, List.length_append, List.length_cons]
      have := length_escaped c
      omega
  have chars : (quoted s).toList ++ rest = '"' :: (s.toList.flatMap escaped ++ '"' :: rest) := by
    simp [quoted]
  rw [chars, readString?, stringChars?_flatMap _ (by rw [List.length_append]; omega)]
  simp

/-! ### Numbers -/

variable {cs r rest : List Char}

theorem skip_cons {c : Char} (figure : isFigure c) : skip (c :: cs) = c :: cs := by
  have solid : (c == ' ' || c == '\n' || c == '\t' || c == '\r') = false := by
    simp only [Bool.or_eq_false_iff, beq_eq_false_iff_ne]
    refine ⟨⟨⟨?_, ?_⟩, ?_⟩, ?_⟩ <;> rintro rfl <;> cases figure
  rw [skip, List.dropWhile_cons_of_neg (by simp [solid])]

theorem isFigure_of_first {c : Char} (first : c = '-' ∨ c.isDigit) : isFigure c := by
  rcases first with rfl | digit
  · rfl
  · simp [isFigure, Char.isAlphanum, digit]

/-- What reads as a number on its own is read in front of what continues no number. -/
theorem read?_append_of_readNumber? {j : Json} (found : readNumber? cs = some (j, []))
    (ends : Ends rest) (fuel : Nat) : read? (fuel + 1) (cs ++ rest) = some (j, rest) := by
  cases cs with
  | nil => cases found
  | cons c cs =>
    have first := first_of_readNumber? found
    have behind := (taken_readNumber? found).append ends
    rw [List.cons_append] at behind ⊢
    simp only [read?, skip_cons (isFigure_of_first first)]
    split
    case h_8 => exact behind
    all_goals simp_all

/-- What one step of reading yields. -/
inductive Step (fuel : Nat) (cs : List Char) : Json → List Char → Prop
  | null (r : List Char) : Step fuel cs .null r
  | bool (b : Bool) (r : List Char) : Step fuel cs (.bool b) r
  | str (s : String) (r : List Char) : Step fuel cs (.str s) r
  | noItems (r : List Char) : Step fuel cs (.arr []) r
  | items {inner items r} (found : readItems? fuel inner = some (items, r)) :
    Step fuel cs (.arr items) r
  | noMembers (r : List Char) : Step fuel cs (.obj []) r
  | members {inner members r} (found : readMembers? fuel [] inner = some (members, r)) :
    Step fuel cs (.obj members) r
  | number {j r} (found : readNumber? (skip cs) = some (j, r)) : Step fuel cs j r

theorem step_of_read? {fuel : Nat} {j : Json} (found : read? (fuel + 1) cs = some (j, r)) :
    Step fuel cs j r := by
  simp only [read?] at found
  split at found
  case h_1 => cases found
  case h_6 | h_7 =>
    split at found
    · cases found
      constructor
    · obtain ⟨⟨parts, behind⟩, inner, same⟩ := Option.map_eq_some_iff.mp found
      cases same
      constructor
      exact inner
  case h_8 => exact .number found
  all_goals
    obtain ⟨_, -, same⟩ := Option.map_eq_some_iff.mp found
    cases same
    constructor

/-- A floating-point number whose text reads as that number. -/
def ReadsBack (x : Binary64) : Prop :=
  parse? (floatText x) = some (.float x)

instance (x : Binary64) : Decidable (ReadsBack x) :=
  decidable_of_iff ((parse? (floatText x)).any fun | .float y => y = x | _ => false) (by
    rw [Option.any_eq_true, ReadsBack]
    constructor
    · rintro ⟨j, found, same⟩
      cases j <;> simp_all
    · intro back
      exact ⟨.float x, back, decide_eq_true rfl⟩)

theorem skip_figures (figures : Figures cs) : skip cs = cs := by
  cases cs with
  | nil => rfl
  | cons c cs => exact skip_cons (figures c List.mem_cons_self)

theorem ReadsBack.readNumber? {x : Binary64} (back : ReadsBack x) :
    readNumber? (floatText x).toList = some (.float x, []) := by
  have figures : Figures (floatText x).toList := by
    cases x with
    | finite negative significand exponent => exact NumberStyle.figures_write
    -- all else is written as null, which does not read as a number
    | nan => cases (show parse? "null" = some .null by rfl).symm.trans back
    | infinity negative => cases (show parse? "null" = some .null by rfl).symm.trans back
  simp only [ReadsBack, parse?, bind, Option.bind_eq_some_iff] at back
  obtain ⟨⟨j, behind⟩, found, same⟩ := back
  split at same
  · next blank =>
    cases same
    cases step_of_read? found with
    | number found =>
      rw [skip_figures figures] at found
      -- what is left is figures too, so nothing of it was skipped
      have left : Figures behind := fun c member =>
        figures c ((taken_readNumber? found).suffix.subset member)
      rw [skip_figures left, List.isEmpty_iff] at blank
      rw [found, blank]
  · cases same

/-! ### Documents -/

/-- A document that can be read: its integers are in range, its floating-point numbers are finite,
and the names of an object are distinct. -/
inductive WellFormed : Json → Prop
  | null : WellFormed .null
  | bool (b : Bool) : WellFormed (.bool b)
  | int {i : Int} (inRange : InRange i) : WellFormed (.int i)
  | float {x : Binary64} (finite : x.isFinite) : WellFormed (.float x)
  | str (s : String) : WellFormed (.str s)
  | arr {items : List Json} (each : ∀ j ∈ items, WellFormed j) : WellFormed (.arr items)
  | obj {members : List (String × Json)} (distinct : (members.map Prod.fst).Nodup)
    (each : ∀ m ∈ members, WellFormed m.2) : WellFormed (.obj members)

mutual

/-- The floating-point numbers in a document. -/
def floats : Json → List Binary64
  | .float x => [x]
  | .arr items => itemFloats items
  | .obj members => memberFloats members
  | _ => []

/-- The floating-point numbers in the items of a list. -/
def itemFloats : List Json → List Binary64
  | [] => []
  | j :: rest => floats j ++ itemFloats rest

/-- The floating-point numbers in the members of an object. -/
def memberFloats : List (String × Json) → List Binary64
  | [] => []
  | (_, j) :: rest => floats j ++ memberFloats rest

end

/-- The floating-point numbers in the document read back, as far as they are finite. -/
def FloatsReadBack (j : Json) : Prop :=
  ∀ x ∈ j.floats, x.isFinite → ReadsBack x

instance (j : Json) : Decidable j.FloatsReadBack :=
  inferInstanceAs (Decidable (∀ x ∈ j.floats, x.isFinite → ReadsBack x))

/-- A name that is new goes last. -/
theorem putMember_of_notMem {members : List (String × Json)} {name : String}
    (fresh : name ∉ members.map Prod.fst) (value : Json) :
    putMember members name value = members ++ [(name, value)] := by
  induction members with
  | nil => rfl
  | cons m rest ih =>
    rw [List.map_cons, List.mem_cons, not_or] at fresh
    rw [putMember, if_neg (Ne.symm fresh.1), ih fresh.2, List.cons_append]

theorem fresh_of_distinct {before members : List (String × Json)} {m : String × Json}
    (distinct : ((before ++ m :: members).map Prod.fst).Nodup) : m.1 ∉ before.map Prod.fst := by
  rw [List.map_append, List.nodup_append] at distinct
  exact fun member => distinct.2.2 m.1 member m.1 (by simp) rfl

theorem skip_ends (ends : Ends rest) : skip rest = rest := by
  cases rest with
  | nil => rfl
  | cons c rest => rcases ends c rfl with rfl | rfl | rfl <;> rfl

theorem read?_null (fuel : Nat) (rest : List Char) :
    read? (fuel + 1) ("null".toList ++ rest) = some (.null, rest) := by
  simp [read?, skip, word?]

theorem read?_bool (b : Bool) (fuel : Nat) (rest : List Char) :
    read? (fuel + 1) ((if b then "true" else "false").toList ++ rest) = some (.bool b, rest) := by
  cases b <;> simp [read?, skip, word?]

theorem read?_str (s : String) (fuel : Nat) (rest : List Char) :
    read? (fuel + 1) ((quoted s).toList ++ rest) = some (.str s, rest) := by
  have whole := readString?_quoted s rest
  have chars : (quoted s).toList ++ rest = '"' :: (s.toList.flatMap escaped ++ '"' :: rest) := by
    simp [quoted]
  rw [chars] at whole ⊢
  simp [read?, skip, whole]

/-- Items are read as a list: they do not start with the closing bracket. -/
theorem read?_of_readItems? {fuel : Nat} {items : List Json}
    (found : readItems? fuel cs = some (items, r)) :
    read? (fuel + 1) ('[' :: cs) = some (.arr items, r) := by
  have opening : skip ('[' :: cs) = '[' :: cs := rfl
  simp only [read?, opening]
  split
  · next closing =>
    exfalso
    match fuel with
    | 0 => cases found
    | 1 => cases found
    | fuel + 2 =>
      rw [readItems?, read?, closing] at found
      cases found
  · rw [found]
    rfl

theorem read?_of_readMembers? {fuel : Nat} {members : List (String × Json)}
    (found : readMembers? fuel [] cs = some (members, r)) :
    read? (fuel + 1) ('\x7b' :: cs) = some (.obj members, r) := by
  have opening : skip ('\x7b' :: cs) = '\x7b' :: cs := rfl
  simp only [read?, opening]
  split
  · next closing =>
    exfalso
    cases fuel with
    | zero => cases found
    | succ fuel =>
      rw [readMembers?, closing] at found
      cases found
  · rw [found]
    rfl

/-- The document reads back from its text, in front of what may follow a value. -/
def Legible (j : Json) : Prop :=
  ∀ (fuel : Nat) (rest : List Char), j.compact.toList.length ≤ fuel → Ends rest →
    read? (fuel + 1) (j.compact.toList ++ rest) = some (j, rest)

theorem compactItems_eq_map (items : List Json) : compactItems items = items.map compact := by
  induction items with
  | nil => rfl
  | cons j items ih => rw [compactItems, ih, List.map_cons]

theorem itemFloats_eq_flatMap (items : List Json) : itemFloats items = items.flatMap floats := by
  induction items with
  | nil => rfl
  | cons j items ih => rw [itemFloats, ih, List.flatMap_cons]

theorem memberFloats_eq_flatMap (members : List (String × Json)) :
    memberFloats members = members.flatMap fun m => floats m.2 := by
  induction members with
  | nil => rfl
  | cons m members ih => rw [memberFloats, ih, List.flatMap_cons]

theorem ends_cons {c : Char} (separator : c = ',' ∨ c = ']' ∨ c = '\x7d') (rest : List Char) :
    Ends (c :: rest) := by
  intro d isHead
  cases isHead
  exact separator

theorem readItems?_of_legible {items : List Json} (some : items ≠ [])
    (each : ∀ j ∈ items, j.Legible) (fuel : Nat) (rest : List Char)
    (enough : (joinWith "," (items.map compact)).toList.length < fuel) :
    readItems? (fuel + 1) ((joinWith "," (items.map compact)).toList ++ ']' :: rest) =
      .some (items, rest) := by
  induction items generalizing fuel with
  | nil => exact absurd rfl some
  | cons j items ih =>
    -- each item with its comma is longer than the one step that it takes
    have first := each j List.mem_cons_self
    have others : ∀ k ∈ items, k.Legible := fun k member => each k (List.mem_cons_of_mem j member)
    obtain ⟨fuel, rfl⟩ := Nat.exists_eq_add_one.mpr (Nat.zero_lt_of_lt enough)
    cases items with
    | nil =>
      have item := first fuel (']' :: rest) (by simpa [joinWith] using Nat.le_of_lt_succ enough)
        (ends_cons (.inr (.inl rfl)) rest)
      rw [List.map_singleton, joinWith, readItems?, item]
      rfl
    | cons k items =>
      have split : (joinWith "," ((j :: k :: items).map compact)).toList ++ ']' :: rest =
          j.compact.toList ++ ',' ::
            ((joinWith "," ((k :: items).map compact)).toList ++ ']' :: rest) := by
        simp [joinWith]
      have shorter : (joinWith "," ((j :: k :: items).map compact)).toList.length =
          j.compact.toList.length + 1 +
            (joinWith "," ((k :: items).map compact)).toList.length := by
        simp [joinWith]
        omega
      have item := first fuel _ (by omega) (ends_cons (.inl rfl)
        ((joinWith "," ((k :: items).map compact)).toList ++ ']' :: rest))
      have behind := ih (by simp) others fuel (by omega)
      rw [split, readItems?, item]
      simp only [bind, Option.bind, skip_ends (ends_cons (.inl rfl) _), behind]
      rfl

/-- One member, up to what follows its value. -/
theorem readMember?_of_legible {j : Json} (legible : j.Legible) (name : String) {fuel : Nat}
    (enough : j.compact.toList.length ≤ fuel) (before : List (String × Json)) :
    Ends rest → readMembers? (fuel + 2) before ((quoted name ++ ":" ++ j.compact).toList ++ rest) =
      match rest with
      | '\x7d' :: r => some (putMember before name j, r)
      | ',' :: r => readMembers? (fuel + 1) (putMember before name j) r
      | _ => none := by
  intro ends
  have chars : (quoted name ++ ":" ++ j.compact).toList ++ rest =
      (quoted name).toList ++ ':' :: (j.compact.toList ++ rest) := by
    simp
  have opening : skip ((quoted name).toList ++ ':' :: (j.compact.toList ++ rest)) =
      (quoted name).toList ++ ':' :: (j.compact.toList ++ rest) := by
    simp [quoted, skip]
  have colon (cs : List Char) : skip (':' :: cs) = ':' :: cs := rfl
  rw [chars, readMembers?, opening, readString?_quoted]
  simp only [bind, Option.bind, colon, legible fuel rest enough ends, skip_ends ends]
  rfl

theorem readMembers?_of_legible {members : List (String × Json)} (some : members ≠ [])
    (each : ∀ m ∈ members, m.2.Legible) (before : List (String × Json))
    (distinct : ((before ++ members).map Prod.fst).Nodup) (fuel : Nat) (rest : List Char)
    (enough : (joinWith "," (compactMembers members)).toList.length < fuel) :
    readMembers? (fuel + 1) before
        ((joinWith "," (compactMembers members)).toList ++ '\x7d' :: rest) =
      .some (before ++ members, rest) := by
  induction members generalizing fuel before with
  | nil => exact absurd rfl some
  | cons m members ih =>
    obtain ⟨name, j⟩ := m
    have first : j.Legible := each (name, j) List.mem_cons_self
    have others : ∀ m ∈ members, m.2.Legible := fun m member =>
      each m (List.mem_cons_of_mem _ member)
    have put : putMember before name j = before ++ [(name, j)] :=
      putMember_of_notMem (fresh_of_distinct distinct) j
    obtain ⟨fuel, rfl⟩ := Nat.exists_eq_add_one.mpr (Nat.zero_lt_of_lt enough)
    cases members with
    | nil =>
      have short : j.compact.toList.length ≤ fuel := by
        simp [compactMembers, joinWith] at enough
        omega
      rw [compactMembers, compactMembers, joinWith, readMember?_of_legible first name short before
        (ends_cons (.inr (.inr rfl)) rest), put]
      rfl
    | cons k members =>
      have split : (joinWith "," (compactMembers ((name, j) :: k :: members))).toList ++
          '\x7d' :: rest = (quoted name ++ ":" ++ j.compact).toList ++ ',' ::
            ((joinWith "," (compactMembers (k :: members))).toList ++ '\x7d' :: rest) := by
        simp [compactMembers, joinWith]
      have shorter : j.compact.toList.length + 1 +
          (joinWith "," (compactMembers (k :: members))).toList.length ≤
            (joinWith "," (compactMembers ((name, j) :: k :: members))).toList.length := by
        simp [compactMembers, joinWith]
        omega
      have behind := ih (by simp) others (before ++ [(name, j)]) (by simpa using distinct) fuel
        (by omega)
      rw [split, readMember?_of_legible first name (by omega) before (ends_cons (.inl rfl) _), put]
      rw [List.append_assoc, List.singleton_append] at behind
      exact behind

theorem legible {j : Json} (wellFormed : j.WellFormed) (back : j.FloatsReadBack) :
    j.Legible := by
  induction wellFormed with
  | null =>
    intro fuel rest _ _
    rw [compact]
    exact read?_null fuel rest
  | bool b =>
    intro fuel rest _ _
    rw [compact]
    exact read?_bool b fuel rest
  | int inRange =>
    intro fuel rest _ ends
    rw [compact]
    exact read?_append_of_readNumber? (readNumber?_intText inRange) ends fuel
  | @float x finite =>
    intro fuel rest _ ends
    rw [compact]
    exact read?_append_of_readNumber? (back x (by simp [floats]) finite).readNumber? ends fuel
  | str s =>
    intro fuel rest _ _
    rw [compact]
    exact read?_str s fuel rest
  | @arr items each ih =>
    intro fuel rest enough _
    have legibles : ∀ j ∈ items, j.Legible := fun j member => ih j member fun x inside =>
      back x (by rw [floats, itemFloats_eq_flatMap]; exact List.mem_flatMap.mpr ⟨j, member, inside⟩)
    cases items with
    | nil => rw [compact]; rfl
    | cons j items =>
      have chars : (arr (j :: items)).compact.toList ++ rest =
          '[' :: ((joinWith "," ((j :: items).map compact)).toList ++ ']' :: rest) := by
        simp [compact, compactItems_eq_map]
      have length := congrArg List.length chars
      simp only [List.length_append, List.length_cons] at length
      obtain ⟨fuel, rfl⟩ := Nat.exists_eq_add_one.mpr (show 0 < fuel by omega)
      have inner := readItems?_of_legible (by simp) legibles fuel rest (by omega)
      rw [chars, read?_of_readItems? inner]
  | @obj members distinct each ih =>
    intro fuel rest enough _
    have legibles : ∀ m ∈ members, m.2.Legible := fun m member => ih m member fun x inside =>
      back x (by
        rw [floats, memberFloats_eq_flatMap]
        exact List.mem_flatMap.mpr ⟨m, member, inside⟩)
    cases members with
    | nil => rw [compact]; rfl
    | cons m members =>
      have chars : (obj (m :: members)).compact.toList ++ rest = '\x7b' ::
          ((joinWith "," (compactMembers (m :: members))).toList ++ '\x7d' :: rest) := by
        simp [compact]
      have length := congrArg List.length chars
      simp only [List.length_append, List.length_cons] at length
      obtain ⟨fuel, rfl⟩ := Nat.exists_eq_add_one.mpr (show 0 < fuel by omega)
      have inner := readMembers?_of_legible (by simp) legibles [] distinct fuel rest (by omega)
      rw [chars, read?_of_readMembers? inner, List.nil_append]

/-- A well-formed document reads back from its text. -/
theorem parse?_compact {j : Json} (wellFormed : j.WellFormed) (back : j.FloatsReadBack) :
    parse? j.compact = some j := by
  have whole := legible wellFormed back j.compact.toList.length [] (Nat.le_refl _) (by simp [Ends])
  rw [List.append_nil] at whole
  rw [parse?, whole]
  rfl

/-! ### What is read is well-formed -/

theorem mem_putMember {members : List (String × Json)} {name : String} {value : Json}
    {m : String × Json} (member : m ∈ putMember members name value) :
    m ∈ members ∨ m = (name, value) := by
  induction members with
  | nil => exact .inr (List.mem_singleton.mp member)
  | cons n rest ih =>
    rw [putMember] at member
    split at member
    · next same =>
      rcases List.mem_cons.mp member with rfl | member
      · exact .inr (by rw [same])
      · exact .inl (List.mem_cons_of_mem n member)
    · rcases List.mem_cons.mp member with rfl | member
      · exact .inl List.mem_cons_self
      · exact (ih member).imp_left (List.mem_cons_of_mem n)

/-- Giving a member a value keeps the names, or adds a new one behind them. -/
theorem names_putMember (members : List (String × Json)) (name : String) (value : Json) :
    (putMember members name value).map Prod.fst =
      if name ∈ members.map Prod.fst then members.map Prod.fst
      else members.map Prod.fst ++ [name] := by
  induction members with
  | nil => rfl
  | cons n rest ih =>
    rw [putMember]
    split
    · next same => simp [same]
    · next other =>
      rw [List.map_cons, ih]
      by_cases given : name ∈ rest.map Prod.fst
      · simp [given]
      · simp [given, Ne.symm other]

theorem WellFormed.putMember {members : List (String × Json)} {value : Json}
    (wellFormed : WellFormed (.obj members)) (ofValue : value.WellFormed) (name : String) :
    WellFormed (.obj (putMember members name value)) := by
  cases wellFormed with
  | obj distinct each =>
    refine .obj ?_ fun m member => ?_
    · rw [names_putMember]
      split
      · exact distinct
      · next fresh =>
        refine List.nodup_append.mpr ⟨distinct, by simp, fun n given m isName => ?_⟩
        rw [List.mem_singleton.mp isName]
        rintro rfl
        exact fresh given
    · rcases mem_putMember member with member | rfl
      · exact each m member
      · exact ofValue

/-- Every step of reading yields what is well-formed, and keeps the members so that were read
before. -/
theorem wellFormed_of_read? (fuel : Nat) :
    (∀ cs j r, read? fuel cs = some (j, r) → j.WellFormed) ∧
    (∀ cs items r, readItems? fuel cs = some (items, r) → ∀ j ∈ items, j.WellFormed) ∧
    ∀ cs before members r, WellFormed (.obj before) →
      readMembers? fuel before cs = some (members, r) → WellFormed (.obj members) := by
  -- the three readers call each other with one step less
  induction fuel with
  | zero =>
    refine ⟨fun _ _ _ found => ?_, fun _ _ _ found => ?_, fun _ _ _ _ _ found => ?_⟩ <;>
      cases found
  | succ fuel ih =>
    obtain ⟨ofRead, ofItems, ofMembers⟩ := ih
    refine ⟨fun cs j r found => ?_, fun cs items r found => ?_,
      fun cs before members r wellFormed found => ?_⟩
    · cases step_of_read? found with
      | null => exact .null
      | bool b => exact .bool b
      | str s => exact .str s
      | noItems => exact .arr (by simp)
      | items found => exact .arr (ofItems _ _ _ found)
      | noMembers => exact .obj (by simp) (by simp)
      | members found => exact ofMembers _ _ _ _ (.obj (by simp) (by simp)) found
      | number found =>
        cases numeric_of_readNumber? found with
        | int inRange => exact .int inRange
        | float finite => exact .float finite
    · rw [readItems?] at found
      obtain ⟨⟨item, rest⟩, first, found⟩ := Option.bind_eq_some_iff.mp found
      dsimp only at found
      split at found
      · cases found
        exact List.forall_mem_singleton.mpr (ofRead _ _ _ first)
      · obtain ⟨⟨others, behind⟩, following, same⟩ := Option.bind_eq_some_iff.mp found
        cases same
        exact List.forall_mem_cons.mpr ⟨ofRead _ _ _ first, ofItems _ _ _ following⟩
      · cases found
    · rw [readMembers?] at found
      obtain ⟨⟨name, rest⟩, -, found⟩ := Option.bind_eq_some_iff.mp found
      dsimp only at found
      split at found
      · obtain ⟨⟨value, behind⟩, first, found⟩ := Option.bind_eq_some_iff.mp found
        have next := wellFormed.putMember (ofRead _ _ _ first) name
        dsimp only at found
        split at found
        · cases found
          exact next
        · exact ofMembers _ _ _ _ next found
        · cases found
      · cases found

/-- What is read is well-formed. -/
theorem wellFormed_of_parse? {s : String} {j : Json} (found : parse? s = some j) :
    j.WellFormed := by
  simp only [parse?, bind, Option.bind_eq_some_iff] at found
  obtain ⟨⟨i, rest⟩, first, same⟩ := found
  split at same
  · cases same
    exact (wellFormed_of_read? _).1 _ _ _ first
  · cases same

end BoundQuery.Json
