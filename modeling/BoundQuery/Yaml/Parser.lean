import BoundQuery.Yaml.Token

/-!
# Documents from YAML

A text holds one document at most. Between brackets, items and entries are divided by commas; an
item with a colon is a map of one entry. A place where nothing stands holds the empty scalar.

## Main definitions

* `node?`, the node at the start of a list of tokens
* `parse?`, the document of a text
-/

namespace BoundQuery.Yaml

/-- The empty scalar. -/
def empty : Document :=
  .plain ""

/-- Where a node stands. -/
inductive Setting where
  /-- In a block. As a part of an entry, a list may stand in the column of the map itself: then it is
  `level`, and no token opens it. -/
  | block (level : Bool)
  /-- Between brackets. -/
  | flow

mutual

/-- The node that the tokens start with, and the tokens behind it. -/
def node? : Nat → Setting → List Token → Option (Document × List Token)
  | 0, _, _ => none
  | fuel + 1, setting, tokens =>
    match setting, tokens with
    | _, .scalar d :: rest => some (d, rest)
    | _, .openBracket :: rest => (flowItems? fuel true rest).map fun (ds, r) => (.list false ds, r)
    | _, .openBrace :: rest => (flowEntries? fuel true rest).map fun (es, r) => (.map es, r)
    | .block _, .listStart :: rest => (items? fuel rest).map fun (ds, r) => (.list false ds, r)
    | .block _, .mapStart :: rest => (entries? fuel rest).map fun (es, r) => (.map es, r)
    | .block true, .dash :: rest =>
      (levelItems? fuel (.dash :: rest)).map fun (ds, r) => (.list false ds, r)
    | _, _ => none

/-- The items of a list in block form, up to its end. -/
def items? : Nat → List Token → Option (List Document × List Token)
  | 0, _ => none
  | fuel + 1, .dash :: rest => do
    let (item, rest) ← match rest with
      | .dash :: _ | .blockEnd :: _ => some (empty, rest)
      | _ => node? fuel (.block false) rest
    let (items, rest) ← items? fuel rest
    return (item :: items, rest)
  | _, .blockEnd :: rest => some ([], rest)
  | _, _ => none

/-- The items of a list that no token opens, nor closes. -/
def levelItems? : Nat → List Token → Option (List Document × List Token)
  | 0, _ => none
  | fuel + 1, .dash :: rest => do
    let (item, rest) ← match rest with
      | .dash :: _ | .key :: _ | .colon :: _ | .blockEnd :: _ => some (empty, rest)
      | _ => node? fuel (.block false) rest
    let (items, rest) ← levelItems? fuel rest
    return (item :: items, rest)
  | _, rest => some ([], rest)

/-- The entries of a map in block form, up to its end. -/
def entries? : Nat → List Token → Option (List (Document × Document) × List Token)
  | 0, _ => none
  | fuel + 1, .key :: rest => do
    let (key, rest) ← blockPart? fuel rest
    let (value, rest) ← match rest with
      | .colon :: rest => blockPart? fuel rest
      | _ => some (empty, rest)
    let (entries, rest) ← entries? fuel rest
    return ((key, value) :: entries, rest)
  | _, .blockEnd :: rest => some ([], rest)
  | _, _ => none

/-- The key or the value of an entry in block form. -/
def blockPart? : Nat → List Token → Option (Document × List Token)
  | 0, _ => none
  | fuel + 1, rest =>
    match rest with
    | .key :: _ | .colon :: _ | .blockEnd :: _ => some (empty, rest)
    | _ => node? fuel (.block true) rest

/-- The items of a list in brackets, up to the closing one. All but the first stand behind a
comma. A question mark without a key takes the token behind it for the key. -/
def flowItems? : Nat → (first : Bool) → List Token → Option (List Document × List Token)
  | 0, _, _ => none
  | _, _, .closeBracket :: rest => some ([], rest)
  | fuel + 1, first, tokens => do
    let rest ← if first then some tokens else match tokens with
      | .comma :: rest => some rest
      | _ => none
    match rest with
    | .closeBracket :: rest => return ([], rest)
    | .key :: rest =>
      let (key, rest) ← match rest with
        | .colon :: rest | .comma :: rest | .closeBracket :: rest => some (empty, rest)
        | _ => node? fuel .flow rest
      let (value, rest) ← flowValue? fuel rest
      let (items, rest) ← flowItems? fuel false rest
      return (.map [(key, value)] :: items, rest)
    | rest =>
      let (item, rest) ← node? fuel .flow rest
      let (items, rest) ← flowItems? fuel false rest
      return (item :: items, rest)

/-- The entries of a map in braces, up to the closing one. All but the first stand behind a
comma. -/
def flowEntries? :
    Nat → (first : Bool) → List Token → Option (List (Document × Document) × List Token)
  | 0, _, _ => none
  | _, _, .closeBrace :: rest => some ([], rest)
  | fuel + 1, first, tokens => do
    let rest ← if first then some tokens else match tokens with
      | .comma :: rest => some rest
      | _ => none
    match rest with
    | .closeBrace :: rest => return ([], rest)
    | .key :: rest =>
      let (key, rest) ← match rest with
        | .colon :: _ | .comma :: _ | .closeBrace :: _ => some (empty, rest)
        | _ => node? fuel .flow rest
      let (value, rest) ← flowValue? fuel rest
      let (entries, rest) ← flowEntries? fuel false rest
      return ((key, value) :: entries, rest)
    | rest =>
      let (key, rest) ← node? fuel .flow rest
      let (entries, rest) ← flowEntries? fuel false rest
      return ((key, empty) :: entries, rest)

/-- The value behind a key between brackets. -/
def flowValue? : Nat → List Token → Option (Document × List Token)
  | 0, _ => none
  | fuel + 1, .colon :: rest =>
    match rest with
    | .comma :: _ | .closeBracket :: _ | .closeBrace :: _ => some (empty, rest)
    | _ => node? fuel .flow rest
  | _, rest => some (empty, rest)

end

/-- The version that a document asks for has to be 1.1 or 1.2, and may be given once. -/
def withoutVersion? : List Token → Option (List Token)
  | .version major minor :: rest =>
    if major == 1 && (minor == 1 || minor == 2) then some rest else none
  | tokens => some tokens

/-- The root of a document behind its start. -/
def content? (fuel : Nat) (tokens : List Token) : Option (Document × List Token) :=
  match tokens with
  | [] | .version _ _ :: _ | .documentStart :: _ | .documentEnd :: _ => some (empty, tokens)
  | _ => node? fuel (.block false) tokens

/-- The document of the tokens. There may be none: then it is the empty scalar. -/
def ofTokens? (tokens : List Token) : Option Document := do
  let fuel := 4 * tokens.length + 4
  let (root, rest) ← match tokens with
    | [] => some (empty, [])
    | .version _ _ :: _ | .documentStart :: _ =>
      match ← withoutVersion? tokens with
      | .documentStart :: rest => content? fuel rest
      | _ => none
    | _ => node? fuel (.block false) tokens
  match rest.dropWhile (fun t => t matches .documentEnd) with
  | [] => return root
  | _ => none

/-- The document of a text. -/
def parse? (text : String) : Option Document :=
  ((Token.scan? text).bind ofTokens?).map (Document.limited Document.maxDepth)

end BoundQuery.Yaml
