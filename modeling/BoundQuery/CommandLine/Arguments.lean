import BoundQuery.Settings

/-!
# Command-line arguments

A command line names a command and its files. Options of the settings may stand before or behind
the command; those behind it win. An option may be given once in each place.

## Main definitions

* `Arguments`, what a command line asks for
* `Arguments.parse?`, the arguments of a command line; none for a wrong use
-/

namespace BoundQuery

/-- What to compile, with the paths of the catalog and of the document. -/
inductive Command where
  | select (catalog criteria : String)
  | update (catalog document : String)
  deriving DecidableEq

/-- What a command line asks for. -/
structure Arguments where
  command : Command
  /-- The path of a settings file. -/
  config : Option String
  overrides : Overrides

namespace Arguments

/-- Options with their values, by their names without the dashes. -/
abbrev Given := List (String × String)

/-- The options of the settings. -/
def settingsOptions : List String :=
  ["config", "dialect", "count-alias", "alias-separator", "result-alias-prefix"]

/-- The options whose values are paths. -/
def pathOptions : List String :=
  ["config", "catalog", "criteria", "refresh"]

/-- Does the argument look like an option? -/
def looksLikeOption (arg : String) : Bool :=
  match arg.toList with
  | '-' :: _ :: _ => true
  | _ => false

/-- The name of a long option, and the value attached to it by an equals sign. -/
def longOption? (arg : String) : Option (String × Option String) :=
  match arg.toList with
  | '-' :: '-' :: c :: cs =>
    let body := String.ofList (c :: cs)
    match Text.cutAt '=' body with
    | some (name, value) => some (name, some value)
    | none => some (body, none)
  | _ => none

/-- Add an option that is among the known ones, is not given yet, and has a value of its form. -/
def put? (known : List String) (given : Given) (name value : String) : Option Given :=
  if !known.contains name || given.any (fun g => g.1 == name) then none
  else if pathOptions.contains name && value.isEmpty then none
  else if name == "dialect" && (Dialect.read? value).isNone then none
  else some (given ++ [(name, value)])

/-- The options at the front, up to the first argument that is none. -/
def takeOptions? (known : List String) (given : Given) : List String → Option (Given × List String)
  | [] => some (given, [])
  | arg :: rest =>
    match longOption? arg with
    | some (name, some value) => do
      let given ← put? known given name value
      takeOptions? known given rest
    | some (name, none) =>
      match rest with
      | [] => none
      | value :: rest =>
        if looksLikeOption value then none
        else do
          let given ← put? known given name value
          takeOptions? known given rest
    | none => some (given, arg :: rest)

/-- The value of an option. -/
def value? (given : Given) (name : String) : Option String :=
  (given.find? fun g => g.1 == name).map Prod.snd

/-- The command with its own options. -/
def command? (name : String) (given : Given) : Option Command := do
  let catalog ← value? given "catalog"
  if name == "select" then return .select catalog (← value? given "criteria")
  else return .update catalog (← value? given "refresh")

/-- The options of a command's own. -/
def commandOptions? (name : String) : Option (List String) :=
  if name == "select" then some ["catalog", "criteria"]
  else if name == "refresh" then some ["catalog", "refresh"]
  else none

/-- The arguments of a command line. -/
def parse? (args : List String) : Option Arguments := do
  let (before, rest) ← takeOptions? settingsOptions [] args
  let name :: rest := rest | none
  let own ← commandOptions? name
  let (behind, rest) ← takeOptions? (own ++ settingsOptions) [] rest
  if !(rest.isEmpty || rest == ["--"]) then none
  let command ← command? name behind
  let setting? := fun option => value? behind option <|> value? before option
  return {
    command
    config := setting? "config"
    overrides := {
      dialect := (setting? "dialect").bind Dialect.read?
      countAlias := setting? "count-alias"
      separator := setting? "alias-separator"
      stem := setting? "result-alias-prefix" } }

/-- The paths of the files to read. -/
def paths (a : Arguments) : List String :=
  a.config.toList ++
    match a.command with
    | .select catalog criteria => [catalog, criteria]
    | .update catalog document => [catalog, document]

end Arguments

end BoundQuery
