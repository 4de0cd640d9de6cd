import BoundQuery.Text.CaseTable

/-!
# Lower and upper case

Full case mapping of Unicode, without rules that depend on the neighbouring characters: one
character may become several.

## Main definitions

* `lowerOf`, `upperOf`, the mapping of one character
* `lower`, a text in lower case
* `lowerFirst`, `upperFirst`, the mapping of the first character alone
-/

namespace BoundQuery.Text

/-- Is the code point one of the run? -/
def CaseRun.holds (r : CaseRun) (n : Nat) : Bool :=
  r.first ≤ n && n ≤ r.last && (n - r.first) % r.step == 0

/-- The mapping of `c`: its expansion if it has one, else its shift within a run, else itself. -/
def mapCase (expansions : List (Nat × List Nat)) (runs : List CaseRun) (c : Char) : List Char :=
  let n := c.toNat
  match expansions.find? fun e => e.1 == n with
  | some (_, images) => images.map Char.ofNat
  | none =>
    match runs.find? fun r => r.holds n with
    | some r => [Char.ofNat (n + r.shift).toNat]
    | none => [c]

/-- The lower case of a character. -/
def lowerOf (c : Char) : List Char :=
  mapCase lowerExpansions lowerRuns c

/-- The upper case of a character. -/
def upperOf (c : Char) : List Char :=
  mapCase upperExpansions upperRuns c

/-- Each character in lower case. -/
def lower (s : String) : String :=
  String.ofList (s.toList.flatMap lowerOf)

/-- The first character mapped by `f`, the rest unchanged. -/
def mapFirst (f : Char → List Char) (s : String) : String :=
  match s.toList with
  | [] => ""
  | c :: cs => String.ofList (f c ++ cs)

/-- The first character in lower case, the rest unchanged. -/
def lowerFirst (s : String) : String :=
  mapFirst lowerOf s

/-- The first character in upper case, the rest unchanged. -/
def upperFirst (s : String) : String :=
  mapFirst upperOf s

end BoundQuery.Text
