import BoundQuery.Proofs.KeyExpressions
import BoundQuery.Proofs.Registry

/-!
# The columns of owned keys

Whether a condition is pruned depends on the type of the property that its key names, and the
condition that is rendered compares a column. The two are found on different ways: the one looks the
parts of the key up, the other takes the key for a script and resolves its tokens. Where names are
identifiers they meet in one property. A key whose qualifier is no identifier stays as it is; but
lower case takes every identifier to an identifier, save one that begins with the capital `i` with a
dot.

## Main definitions

* `Text.dottedI`, `Text.dotAbove`, the one letter whose lower case is no letter
* `Text.DotSplit`, a name that begins with it, in lower case
* `Scope.Named`, scopes with identifiers for names

## Main results

* `Text.isIdentifier_of_lowerFirst` — names that differ in the case of the first letter
* `Scope.script_of_owner` — a key that has an owner is resolved to the owner's column
-/

namespace BoundQuery

open Text

namespace Text

/-! ### The case of letters -/

/-- The capital `i` with a dot. Its lower case is an `i` and a combining dot. -/
def dottedI : Char := Char.ofNat 0x130

/-- The combining dot, which no identifier holds. -/
def dotAbove : Char := Char.ofNat 0x307

/-- The name begins with the dotted letter, and the other spelling has an `i` and a dot for it. -/
def DotSplit (name other : String) : Prop :=
  ∃ c rest, lowerOf c = ['i'] ∧ name.toList = dottedI :: rest ∧ other.toList = c :: dotAbove :: rest

/-- Do the code points from `low` to `high` lie in one of the ascending ranges? -/
def spanned (low high : Nat) : List (Nat × Nat) → Bool
  | [] => false
  | range :: rest =>
    bif Nat.ble range.1 low then
      bif Nat.ble high range.2 then true else spanned low high rest
    else false

theorem inRanges_of_spanned {low high n : Nat} {ranges : List (Nat × Nat)}
    (within : spanned low high ranges) (above : low ≤ n) (below : n ≤ high) :
    inRanges n ranges := by
  induction ranges with
  | nil => cases within
  | cons range rest ih =>
    obtain ⟨lo, hi⟩ := range
    simp only [spanned, Bool.cond_eq_ite, Nat.ble_eq] at within
    split at within
    · next reached =>
      rw [inRanges, if_neg (by omega), Bool.or_eq_true, decide_eq_true_eq]
      split at within
      · exact .inl (by omega)
      · exact .inr (ih within)
    · cases within

/-- The code points of a run. -/
def CaseRun.points (r : CaseRun) : List Nat :=
  (List.range ((r.last - r.first) / r.step + 1)).map fun i => r.first + r.step * i

theorem CaseRun.mem_points {r : CaseRun} {n : Nat} (holds : r.holds n) : n ∈ r.points := by
  simp only [CaseRun.holds, Bool.and_eq_true, decide_eq_true_eq, beq_iff_eq] at holds
  obtain ⟨⟨first, last⟩, step⟩ := holds
  have whole := Nat.div_add_mod (n - r.first) r.step
  have within : (n - r.first) / r.step ≤ (r.last - r.first) / r.step :=
    Nat.div_le_div_right (by omega)
  exact List.mem_map.mpr ⟨(n - r.first) / r.step, List.mem_range.mpr (by omega), by omega⟩

/-- Does lower case move letters of the run to letters? Most runs lie in one range of letters, and
so do their images; a run that skips code points may reach over the end of a range. -/
def CaseRun.keepsLetters (r : CaseRun) : Bool :=
  (spanned r.first r.last alphabeticRanges &&
      spanned (r.first + r.shift).toNat (r.last + r.shift).toNat alphabeticRanges) ||
    r.points.all fun n =>
      inRanges n alphabeticRanges && inRanges (n + r.shift).toNat alphabeticRanges

theorem lowerRuns_keepLetters : lowerRuns.all CaseRun.keepsLetters := by
  decide +kernel

theorem isLetter_of_run {r : CaseRun} {c : Char} (member : r ∈ lowerRuns)
    (holds : r.holds c.toNat) :
    isLetter c ∧ isLetter (Char.ofNat (c.toNat + r.shift).toNat) := by
  have keeps := List.all_eq_true.mp lowerRuns_keepLetters r member
  obtain ⟨point, -⟩ := toNat_image_of_mem member holds
  rw [isLetter, isLetter, point]
  rw [CaseRun.keepsLetters, Bool.or_eq_true, Bool.and_eq_true, List.all_eq_true] at keeps
  rcases keeps with ⟨within, image⟩ | each
  · simp only [CaseRun.holds, Bool.and_eq_true, decide_eq_true_eq, beq_iff_eq] at holds
    obtain ⟨⟨first, last⟩, -⟩ := holds
    exact ⟨inRanges_of_spanned within first last, inRanges_of_spanned image (by omega) (by omega)⟩
  · exact Bool.and_eq_true_iff.mp (each _ (CaseRun.mem_points holds))

/-- A character is its own lower case, or it is a letter and so is its lower case, or it has two
characters for its lower case. -/
theorem lowerOf_cases (c : Char) : lowerOf c = [c] ∨
    (∃ d, lowerOf c = [d] ∧ isLetter c ∧ isLetter d) ∨
      c = dottedI ∧ lowerOf c = ['i', dotAbove] := by
  rw [lowerOf, mapCase]
  split
  · next e images found =>
    have listed := List.mem_of_find?_eq_some found
    rw [lowerExpansions, List.mem_singleton, Prod.mk.injEq] at listed
    obtain ⟨rfl, rfl⟩ := listed
    have point : 0x130 = c.toNat := by simpa using List.find?_some found
    refine .inr (.inr ⟨?_, rfl⟩)
    rw [dottedI, point, Char.ofNat_toNat]
  · split
    · next r found =>
      have holds : r.holds c.toNat := by simpa using List.find?_some found
      exact .inr (.inl ⟨_, rfl, isLetter_of_run (List.mem_of_find?_eq_some found) holds⟩)
    · exact .inl rfl

theorem lowerOf_dottedI : lowerOf dottedI = ['i', dotAbove] := by
  decide +kernel

/-- Lower case is one character, but for one letter. -/
theorem exists_lowerOf (c : Char) : (∃ d, lowerOf c = [d]) ∨ c = dottedI := by
  rcases lowerOf_cases c with same | ⟨d, image, -⟩ | ⟨dotted, -⟩
  · exact .inl ⟨c, same⟩
  · exact .inl ⟨d, image⟩
  · exact .inr dotted

/-- A character opens identifiers when its lower case does. -/
theorem opensIdentifier_lowerOf {c d : Char} (image : lowerOf c = [d]) :
    opensIdentifier c = opensIdentifier d := by
  rcases lowerOf_cases c with same | ⟨e, same, ofLetter, ofImage⟩ | ⟨-, two⟩
  · rw [(List.cons.inj (same.symm.trans image)).1]
  · rw [← (List.cons.inj (same.symm.trans image)).1, opensIdentifier, opensIdentifier, ofLetter,
      ofImage, Bool.true_or, Bool.true_or]
  · cases two.symm.trans image

theorem toList_lowerFirst {s : String} {c : Char} {cs : List Char} (chars : s.toList = c :: cs) :
    (lowerFirst s).toList = lowerOf c ++ cs := by
  rw [lowerFirst, mapFirst, chars, String.toList_ofList]

/-- Two spellings that are equal but for the case of the first letter. -/
theorem isIdentifierChars_of_lowerOf {n x : Char} {ns xs : List Char}
    (identifier : isIdentifierChars (n :: ns)) (images : lowerOf x ++ xs = lowerOf n ++ ns) :
    isIdentifierChars (x :: xs) ∨ n = dottedI ∧ lowerOf x = ['i'] ∧ xs = dotAbove :: ns := by
  rw [isIdentifierChars, Bool.and_eq_true, List.all_eq_true] at identifier ⊢
  obtain ⟨opens, continues⟩ := identifier
  -- the letters are aligned unless exactly one of them is the dotted one
  rcases exists_lowerOf n with ⟨m, ofN⟩ | rfl
  · rcases exists_lowerOf x with ⟨y, ofX⟩ | rfl
    · rw [ofX, ofN] at images
      obtain ⟨rfl, rfl⟩ := List.cons.inj images
      rw [opensIdentifier_lowerOf ofX, ← opensIdentifier_lowerOf ofN]
      exact .inl ⟨opens, continues⟩
    · -- the dot would be in the identifier
      rw [lowerOf_dottedI, ofN] at images
      obtain ⟨-, rfl⟩ := List.cons.inj images
      exact absurd (continues dotAbove List.mem_cons_self) (by decide +kernel)
  · rcases exists_lowerOf x with ⟨y, ofX⟩ | rfl
    · rw [ofX, lowerOf_dottedI] at images
      obtain ⟨rfl, rfl⟩ := List.cons.inj images
      exact .inr ⟨rfl, ofX, rfl⟩
    · obtain rfl := List.append_cancel_left images
      exact .inl ⟨opens, continues⟩

/-- The letter that a name begins with decides whether its other spelling is an identifier. -/
theorem isIdentifier_of_lowerFirst {name other : String} (identifier : isIdentifier name)
    (same : lowerFirst other = lowerFirst name) : isIdentifier other ∨ DotSplit name other := by
  rw [isIdentifier] at identifier
  cases chars : name.toList with
  | nil =>
    rw [chars] at identifier
    cases identifier
  | cons n ns =>
    rw [chars] at identifier
    cases others : other.toList with
    | nil =>
      have empty : (lowerFirst other).toList = [] := by
        rw [lowerFirst, mapFirst, others]
        rfl
      rw [same, toList_lowerFirst chars] at empty
      exact absurd (List.append_eq_nil_iff.mp empty).1 (lowerOf_ne_nil n)
    | cons x xs =>
      have images : lowerOf x ++ xs = lowerOf n ++ ns := by
        rw [← toList_lowerFirst others, same, toList_lowerFirst chars]
      rw [isIdentifier, others]
      rcases isIdentifierChars_of_lowerOf identifier images with ofOther | ⟨rfl, image, rfl⟩
      · exact .inl ofOther
      · exact .inr ⟨x, ns, image, chars, others⟩

end Text

namespace Scope

variable {s : Scope} {k p a : String} {e : Entity} {property : Property}

/-! ### Owners -/

/-- All names of the scope are identifiers: those of entities, properties and aliases. -/
structure Named (s : Scope) : Prop where
  names : ∀ e ∈ s.catalog.entities, isIdentifier e.name
  properties : ∀ e ∈ s.entity :: s.catalog.entities, ∀ q ∈ e.properties.entries, isIdentifier q.1
  aliases : ∀ q ∈ s.aliases.entries, isIdentifier q.1

/-- What an owner is: of a key without a dot the primary entity, otherwise the entity of the
qualifier. -/
theorem owner?_cases (owned : s.owner? k = some (e, p)) :
    (∃ property, e.property? p = some property) ∧
      ((cutAt '.' (trim k) = none ∧ e = s.entity ∧ p = trim k) ∨
        ∃ a, cutAt '.' (trim k) = some (a, p) ∧ s.qualified a = .ok e) := by
  rw [owner?, Option.filter_eq_some_iff] at owned
  obtain ⟨found, known⟩ := owned
  refine ⟨Option.isSome_iff_exists.mp known, ?_⟩
  cases cut : cutAt '.' (trim k) with
  | none =>
    simp only [cut, Option.some.injEq, Prod.mk.injEq] at found
    exact .inl ⟨rfl, found.1.symm, found.2.symm⟩
  | some parts =>
    obtain ⟨a, q⟩ := parts
    simp only [cut, Option.map_eq_some_iff, Prod.mk.injEq] at found
    obtain ⟨f, qualified, rfl, rfl⟩ := found
    refine .inr ⟨a, rfl, ?_⟩
    cases ofA : s.qualified a with
    | error error =>
      rw [ofA] at qualified
      cases qualified
    | ok g =>
      rw [ofA] at qualified
      rw [Option.some.inj qualified]

theorem mem_of_qualified (found : s.qualified a = .ok e) : e ∈ s.catalog.entities := by
  rw [qualified] at found
  split at found
  · next f looked =>
    rw [← Except.ok.inj found]
    exact List.mem_of_find?_eq_some looked
  · cases found

theorem Named.isIdentifier_property (named : s.Named) (ofScope : e ∈ s.entity :: s.catalog.entities)
    (found : e.property? p = some property) : isIdentifier p :=
  named.properties e ofScope _ (Dictionary.mem_of_find? found)

/-- A qualifier is an identifier, or the lower case of a name that begins with the dotted letter. -/
theorem Named.qualifier_cases (named : s.Named) (found : s.qualified a = .ok e) :
    isIdentifier a ∨ DotSplit e.name a := by
  cases declared : s.aliases.find? a with
  | some name => exact .inl (named.aliases _ (Dictionary.mem_of_find? declared))
  | none =>
    have member := mem_of_qualified found
    rw [qualified, declared] at found
    split at found
    · next f looked =>
      obtain rfl := Except.ok.inj found
      have lowered : f.scriptName = lowerFirst a := by simpa using List.find?_some looked
      exact isIdentifier_of_lowerFirst (named.names f member) lowered.symm
    · cases found

/-! ### Scripts -/

/-- A name without a dot. -/
theorem script_of_identifier (identifier : isIdentifier (trim k)) :
    s.script k = .ok (s.simpleKey (trim k)) := by
  have bare := isBare_of_isIdentifier identifier
  have given := ne_empty_of_isIdentifier identifier
  rw [← script_trim, script_of_solid given fun c member => (isBare_iff.mp (bare c member)).1,
    token_of_bare given bare]

/-- A property that is no name of an entity is its column. -/
theorem simpleKey_of_property (other : s.entity.isSelf p = false)
    (unnamed : ¬ (s.aliases.find? p = some p ∧ (s.catalog.lookup? p).isSome))
    (found : s.entity.property? p = some property) : s.simpleKey p = property.column := by
  have none : s.namedTable? p = none := by
    rw [namedTable?]
    split
    · next stands =>
      rw [beq_iff_eq] at stands
      rw [Option.map_eq_none_iff, ← Option.not_isSome_iff_eq_none]
      exact fun some => unnamed ⟨stands, some⟩
    · rfl
  simp only [simpleKey, none, other, Bool.false_eq_true, if_false, Entity.column?, found,
    Option.map_some, Option.getD_some]

/-- A dotted key is one key for the script too. -/
theorem script_of_dotted (cut : cutAt '.' (trim k) = some (a, p)) (bare : ∀ c ∈ a.toList, isBare c)
    (identifier : isIdentifier p) : s.script k = s.key k := by
  have lone := isLone_dotted bare identifier
  have whole : trim k = a ++ "." ++ p := eq_append_of_cutAt cut
  rw [← whole, isLone, trim_trim, ← isLone] at lone
  exact script_of_lone lone

/-- An identifier in front of the dot makes the key a column of its entity. -/
theorem script_of_qualifier (cut : cutAt '.' (trim k) = some (a, p)) (qualifier : isIdentifier a)
    (identifier : isIdentifier p) (qualified : s.qualified a = .ok e)
    (found : e.property? p = some property) :
    s.script k = .ok (e.qualifier a ++ "." ++ property.column) := by
  have column : e.column? p = some property.column := by
    rw [Entity.column?, found]
    rfl
  have whole : trim k = a ++ "." ++ p := eq_append_of_cutAt cut
  rw [script_of_dotted cut (isBare_of_isIdentifier qualifier) identifier, ← key_trim, whole,
    key_of_identifiers qualifier identifier, qualified, Except.map, column, Option.getD_some]

/-- With anything else in front of the dot, the key is not looked up. -/
theorem script_of_not_identifier (cut : cutAt '.' (trim k) = some (a, p))
    (bare : ∀ c ∈ a.toList, isBare c) (other : ¬ isIdentifier a) (identifier : isIdentifier p) :
    s.script k = .ok (trim k) := by
  rw [script_of_dotted cut bare identifier, key]
  simp only [cut, other, Bool.false_and, Bool.false_eq_true, if_false]

/-- The dot is in no identifier, but it is no punctuation either. -/
theorem bare_of_dotSplit {name : String} (identifier : isIdentifier name)
    (split : DotSplit name a) : ∀ d ∈ a.toList, isBare d := by
  obtain ⟨c, rest, image, letters, chars⟩ := split
  rw [isIdentifier, letters, isIdentifierChars, Bool.and_eq_true, List.all_eq_true] at identifier
  rw [chars, List.forall_mem_cons, List.forall_mem_cons]
  refine ⟨?_, by decide +kernel, fun d member =>
    isBare_of_continuesIdentifier (identifier.2 d member)⟩
  apply isBare_of_continuesIdentifier
  have opens : opensIdentifier c := (opensIdentifier_lowerOf image).trans (by decide +kernel)
  rw [opensIdentifier, Bool.or_eq_true] at opens
  rw [continuesIdentifier, isLetterOrNumeral, Bool.or_eq_true, Bool.or_eq_true]
  exact opens.imp .inl id

/-- A key that has an owner is resolved to the owner's column. Without a dot it is a property of the
primary entity, and its column, unless it is a name of an entity too. With a dot it is the column,
qualified as the entity is. Only where the qualifier is no identifier does the key stay as it is;
then the name of the entity begins with the dotted letter and the qualifier with its lower case. In
each case the key does resolve. -/
theorem script_of_owner (named : s.Named) (owned : s.owner? k = some (e, p)) :
    ∃ property sql, e.property? p = some property ∧ s.script k = .ok sql ∧
      (cutAt '.' (trim k) = none → e = s.entity ∧ p = trim k ∧
        (s.entity.isSelf p = false →
          ¬ (s.aliases.find? p = some p ∧ (s.catalog.lookup? p).isSome) → sql = property.column)) ∧
      ∀ a q, cutAt '.' (trim k) = some (a, q) → q = p ∧
        (isIdentifier a → sql = e.qualifier a ++ "." ++ property.column) ∧
        (isIdentifier a = false → sql = trim k ∧ DotSplit e.name a) := by
  obtain ⟨⟨property, found⟩, ⟨uncut, rfl, rfl⟩ | ⟨a, cut, qualified⟩⟩ := owner?_cases owned
  · have identifier := named.isIdentifier_property List.mem_cons_self found
    refine ⟨property, _, found, script_of_identifier identifier, fun _ => ⟨rfl, rfl, ?_⟩, ?_⟩
    · intro other unnamed
      exact simpleKey_of_property other unnamed found
    · intro a q cut
      rw [uncut] at cut
      cases cut
  · have member := mem_of_qualified qualified
    have identifier := named.isIdentifier_property (List.mem_cons_of_mem _ member) found
    have dotted : cutAt '.' (trim k) ≠ none := by simp [cut]
    by_cases qualifier : isIdentifier a
    · refine ⟨property, _, found, script_of_qualifier cut qualifier identifier qualified found,
        fun uncut => absurd uncut dotted, ?_⟩
      intro b q again
      obtain ⟨rfl, rfl⟩ := Prod.mk.inj (Option.some.inj (cut.symm.trans again))
      exact ⟨rfl, fun _ => rfl, fun none => absurd qualifier (by simp [none])⟩
    · -- aliases are identifiers, so the qualifier is a spelling of the entity's name
      have split := (named.qualifier_cases qualified).resolve_left qualifier
      have bare := bare_of_dotSplit (named.names e member) split
      refine ⟨property, _, found, script_of_not_identifier cut bare qualifier identifier,
        fun uncut => absurd uncut dotted, ?_⟩
      intro b q again
      obtain ⟨rfl, rfl⟩ := Prod.mk.inj (Option.some.inj (cut.symm.trans again))
      exact ⟨rfl, fun some => absurd some qualifier, fun _ => ⟨rfl, split⟩⟩

end Scope

namespace Depot

/-- The items of orders, with a name for them. -/
def itemsNamed : Scope := ⟨catalog, order, .ofList [("i", "orderItem")]⟩

theorem named_items : itemsNamed.Named :=
  ⟨by decide +kernel, by decide +kernel, by decide +kernel⟩

end Depot

/-- The order of an item, by the name of the items, and the number of an order. -/
theorem Scope.script_of_owner_items :
    Depot.itemsNamed.owner? " i.orderId" = some (Depot.orderItem, "orderId") ∧
      Depot.itemsNamed.script " i.orderId" = .ok "i.order_id" ∧
      Depot.itemsNamed.owner? "id" = some (Depot.order, "id") ∧
      Depot.itemsNamed.script "id" = .ok "id" := by
  have ofItem : Depot.itemsNamed.owner? " i.orderId" = some (Depot.orderItem, "orderId") := rfl
  have ofOrder : Depot.itemsNamed.owner? "id" = some (Depot.order, "id") := rfl
  have orderId : Depot.orderItem.property? "orderId" =
      some ⟨"order_id", .integer, false, false⟩ := rfl
  have id : Depot.order.property? "id" = some ⟨"id", .integer, false, false⟩ := rfl
  refine ⟨ofItem, ?_, ofOrder, ?_⟩
  · obtain ⟨property, sql, found, resolved, -, dotted⟩ := script_of_owner Depot.named_items ofItem
    obtain ⟨-, column, -⟩ := dotted "i" "orderId" (by decide +kernel)
    obtain rfl := Option.some.inj (found.symm.trans orderId)
    rw [resolved, column (by decide +kernel)]
    rfl
  · obtain ⟨property, sql, found, resolved, plain, -⟩ := script_of_owner Depot.named_items ofOrder
    obtain ⟨-, -, column⟩ := plain (by decide +kernel)
    obtain rfl := Option.some.inj (found.symm.trans id)
    rw [resolved, column (by decide +kernel) (by decide +kernel)]

namespace Depot

/-- An entity whose name begins with the dotted letter. -/
def capital : Entity where
  name := "\u0130tem"
  table := "t_item"
  properties := .ofList [("id", ⟨"item_id", .integer, false, false⟩)]

def capitalScope : Scope := ⟨⟨[capital]⟩, capital, .empty⟩

end Depot

/-- The script name of an entity owns its keys, and the type of the property is known; but in the
statement the key stays as it is, and its column is not named. -/
theorem Scope.script_of_lowered_owner :
    Depot.capitalScope.Named ∧ Depot.capital.scriptName = "i\u0307tem" ∧
      Depot.capitalScope.owner? "i\u0307tem.id" = some (Depot.capital, "id") ∧
      Depot.capital.qualifier "i\u0307tem" = "t_item" ∧
      Depot.capitalScope.script "i\u0307tem.id" = .ok "i\u0307tem.id" :=
  ⟨⟨by decide +kernel, by decide +kernel, by decide +kernel⟩, by decide +kernel, rfl,
    by decide +kernel, by decide +kernel⟩

end BoundQuery
