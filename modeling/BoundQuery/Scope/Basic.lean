import BoundQuery.Error
import BoundQuery.Scope.Source

/-!
# Scopes

A scope resolves logical names to physical ones: `alias.property` to a qualified column, an entity's
name to its table, a property of the primary entity to its column. All other text stays as it is.

## Main definitions

* `Scope`, the names that a statement can use
* `Scope.key`, one key resolved
* `Scope.script`, a script resolved token by token
* `Scope.owner?`, the known property that a key names
-/

namespace BoundQuery

/-- The names that a statement can use. -/
structure Scope where
  catalog : Catalog
  /-- The primary entity. -/
  entity : Entity
  /-- Declared names, with the entities they stand for. -/
  aliases : Dictionary String

namespace Scope

/-- The entity that a qualifier stands for. -/
def qualified (s : Scope) (qualifier : String) : Except CompileError Entity :=
  let name := (s.aliases.find? qualifier).getD qualifier
  match s.catalog.lookup? name with
  | some e => .ok e
  | none => .error (.unresolvedEntity name)

/-- The table of an entity that the source names by its own name. -/
def namedTable? (s : Scope) (key : String) : Option String :=
  if s.aliases.find? key == some key then (s.catalog.lookup? key).map Entity.table else none

/-- A key without a dot. -/
def simpleKey (s : Scope) (key : String) : String :=
  match s.namedTable? key with
  | some table => table
  | none => if s.entity.isSelf key then s.entity.table else (s.entity.column? key).getD key

/-- One key resolved. -/
def key (s : Scope) (text : String) : Except CompileError String :=
  let text := Text.trim text
  match Text.cutAt '.' text with
  | some (qualifier, property) =>
    if Text.isIdentifier qualifier && Text.isIdentifier property then do
      let e ← s.qualified qualifier
      return e.qualifier qualifier ++ "." ++ (e.column? property).getD property
    else .ok text
  | none => .ok (s.simpleKey text)

/-- Punctuation that may follow a key in a token. -/
def isTrailer (c : Char) : Bool :=
  c == ',' || c == ')' || c == ';'

/-- A token cut into what stands up to its last opening parenthesis, the key, and the punctuation
behind the key. -/
def tokenParts (token : List Char) : List Char × List Char × List Char :=
  let isInner := fun c => c != '('
  let inner := (token.reverse.takeWhile isInner).reverse
  let outer := (token.reverse.dropWhile isInner).reverse
  (outer, (inner.reverse.dropWhile isTrailer).reverse, (inner.reverse.takeWhile isTrailer).reverse)

/-- One token of a script resolved. -/
def token (s : Scope) (text : String) : Except CompileError String :=
  match tokenParts text.toList with
  | (_, [], _) => .ok text
  | (outer, core, trailer) => do
    let resolved ← s.key (String.ofList core)
    return String.ofList outer ++ resolved ++ String.ofList trailer

/-- A script resolved token by token; single blanks stand between the tokens. -/
def script (s : Scope) (text : String) : Except CompileError String := do
  let tokens ← (Text.words text).mapM s.token
  return Text.joinWith " " tokens

/-- The entity and property that a key names, when the property is known. -/
def owner? (s : Scope) (key : String) : Option (Entity × String) :=
  let text := Text.trim key
  let named := match Text.cutAt '.' text with
    | some (qualifier, property) => ((s.qualified qualifier).toOption).map (·, property)
    | none => some (s.entity, text)
  named.filter fun (e, property) => (e.property? property).isSome

end Scope

end BoundQuery
