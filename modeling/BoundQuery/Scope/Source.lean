import BoundQuery.Dictionary
import BoundQuery.Text.Blank
import BoundQuery.Text.Cut
import BoundQuery.Text.Letter

/-!
# Source scripts

A source script names entities, joins and aliases, as in
`FROM order o INNER JOIN orderItem i ON i.orderId = o.id`.

## Main definitions

* `Source.withoutFrom`, the script without a leading FROM
* `Source.aliases`, the names that the script declares, with the entities they stand for
-/

namespace BoundQuery.Source

/-- The words of join syntax, which are neither entities nor aliases. -/
def keywords : List String :=
  ["FROM", "JOIN", "INNER", "LEFT", "RIGHT", "OUTER", "CROSS", "FULL", "NATURAL", "STRAIGHT_JOIN",
    "ON", "USING", "AND", "OR", "AS", "WHERE"]

/-- Is the token a word of join syntax, in any case? -/
def isKeyword (token : String) : Bool :=
  keywords.any fun k => Text.sameIgnoringCase k token

/-- May the token name an entity or an alias? -/
def isName (token : String) : Bool :=
  !isKeyword token && Text.isIdentifier token

/-- The script without outer blanks and without a leading FROM. -/
def withoutFrom (script : String) : String :=
  let trimmed := Text.trim script
  let first := trimmed.toList.takeWhile fun c => !Text.isBlank c
  let rest := trimmed.toList.dropWhile fun c => !Text.isBlank c
  if Text.sameIgnoringCase (String.ofList first) "FROM" then Text.trimStart (String.ofList rest)
  else trimmed

/-- The tokens of a script: commas stand alone. -/
def tokens (script : String) : List String :=
  Text.words (Text.replaceEach ',' " , " script)

/-- Does an entity follow the token? -/
def announcesEntity (token : String) : Bool :=
  token == "," || Text.sameIgnoringCase token "FROM" || Text.sameIgnoringCase token "JOIN"

/-- The tokens without a leading AS. -/
def withoutAs : List String → List String
  | [] => []
  | t :: rest => if Text.sameIgnoringCase t "AS" then rest else t :: rest

theorem length_withoutAs_le (ts : List String) : (withoutAs ts).length ≤ ts.length := by
  cases ts with
  | nil => exact Nat.le_refl 0
  | cons t rest =>
    rw [withoutAs]
    split
    · exact Nat.le_succ rest.length
    · exact Nat.le_refl (t :: rest).length

/-- The alias that follows an entity, if there is one, and the tokens behind it. -/
def takeAlias (ts : List String) : Option String × List String :=
  match withoutAs ts with
  | [] => (none, [])
  | a :: rest => if isName a then (some a, rest) else (none, a :: rest)

theorem length_takeAlias_le (ts : List String) : (takeAlias ts).2.length ≤ ts.length := by
  refine Nat.le_trans ?_ (length_withoutAs_le ts)
  rw [takeAlias]
  cases withoutAs ts with
  | nil => exact Nat.le_refl 0
  | cons a rest =>
    by_cases named : isName a
    · simp [named]
    · simp [named]

/-- The declarations in tokens, entity by entity; `expecting` says whether an entity may come
next. -/
def declarations (expecting : Bool) : List String → List (String × String)
  | [] => []
  | t :: rest =>
    if announcesEntity t then declarations true rest
    else if expecting && isName t then
      let next := takeAlias rest
      (t, t) :: (next.1.map (·, t)).toList ++ declarations false next.2
    else declarations expecting rest
termination_by ts => ts.length
decreasing_by
  · simp
  · exact Nat.lt_succ_of_le (length_takeAlias_le rest)
  · simp

/-- The names that a script declares, each with the entity it stands for. An entity also stands for
itself, and of repeated names the last declaration counts. -/
def aliases (script : String) : Dictionary String :=
  Dictionary.ofList (declarations true (tokens script))

end BoundQuery.Source
