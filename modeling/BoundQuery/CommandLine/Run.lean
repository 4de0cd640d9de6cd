import BoundQuery.CommandLine.Arguments
import BoundQuery.CommandLine.Folder
import BoundQuery.Document.Catalog
import BoundQuery.Document.Criteria
import BoundQuery.Document.Settings
import BoundQuery.Statement.Select
import BoundQuery.Statement.Update
import BoundQuery.Yaml.Parser

/-!
# Running a command

A command reads its settings, its catalog and its document, and prints the compiled statement. The
settings come from the environment, a file and the options; a file replaces those of the
environment, and options replace single ones. What document a text holds is up to the surroundings,
which read YAML unless they say otherwise.

## Main definitions

* `Surroundings`, what a command can see
* `Failure`, why a command fails, with its report
* `Arguments.run`, the output of a command
-/

namespace BoundQuery

/-- What a command can see. -/
structure Surroundings where
  /-- The environment variables. -/
  environment : String → Option String
  /-- The content of a file, or why it cannot be read. -/
  file : String → Except String String
  /-- The document that a text holds. -/
  parse? : String → Option Document := Yaml.parse?

/-- A command that runs in a folder. -/
def Surroundings.inFolder (folder : Folder) (environment : Dictionary String) : Surroundings where
  environment := environment.find?
  file path := (folder.read path).mapError FileFault.message

/-- Why a command fails. -/
inductive Failure where
  | environment (e : SettingsError)
  | settingsFile (path : String) (e : SettingsError)
  | options (e : SettingsError)
  | catalogFile (path : String) (e : CatalogError)
  | unreadable (path reason : String)
  | unparsable (path : String)
  | compilation (e : CompileError)

namespace Failure

/-- The message of a failure, followed by its causes. -/
def causes : Failure → List String
  | .environment e => ["invalid CRITERIA_SQL_* environment", e.message, e.cause]
  | .settingsFile path e => ["invalid configuration file " ++ path, e.message, e.cause]
  | .options e => ["invalid command-line configuration", e.message, e.cause]
  | .catalogFile path e =>
    ["failed to load catalog " ++ path, (CompileError.catalog e).message, e.message]
  | .unreadable path reason => ["failed to read " ++ path, reason]
  | .unparsable path => ["failed to parse " ++ path, "not a document of this kind"]
  | .compilation e => [e.message]

/-- A cause behind its mark; further lines go in as far as the first. -/
def entry (mark : String) (cause : String) : String :=
  let margin := "\n" ++ String.ofList (List.replicate mark.length ' ')
  "\n" ++ mark ++ Text.joinWith margin (Text.splitAll '\n' cause)

/-- The causes with numbers from `n`. -/
def numbered (n : Nat) : List String → String
  | [] => ""
  | c :: cs => entry ("    " ++ String.ofList (Nat.toDigits 10 n) ++ ": ") c ++ numbered (n + 1) cs

/-- The causes behind a message; several are numbered. -/
def trail : List String → String
  | [] => ""
  | [c] => "\n\nCaused by:" ++ entry "    " c
  | cs => "\n\nCaused by:" ++ numbered 0 cs

/-- The report of a failure. -/
def report (f : Failure) : String :=
  match f.causes with
  | [] => "Error: "
  | top :: rest => "Error: " ++ top ++ trail rest

end Failure

/-- A dictionary as JSON, in the order of its names. -/
def Dictionary.toJson (d : Dictionary String) : Json :=
  .obj (d.sorted.map fun (name, value) => (name, .str value))

/-- Labels as JSON. -/
def Labels.toJson (l : Labels) : Json :=
  .obj [
    ("alias_map", l.aliases.toJson),
    ("property_mapping", l.properties.toJson),
    ("result_key_alias_map", l.expressions.toJson)]

/-- A compiled read as JSON. -/
def Select.toJson (s : Select) : Json :=
  .obj [
    ("sql", .str s.sql),
    ("count_sql", Json.ofText? s.countSql?),
    ("values", .arr (s.values.map Value.toJson)),
    ("result_mapping", s.labels.toJson)]

/-- A compiled update as JSON. -/
def UpdateStatement.toJson (u : UpdateStatement) : Json :=
  .obj [("sql", .str u.sql), ("values", .arr (u.values.map Value.toJson))]

/-- The settings in a text. -/
def Settings.ofYaml (text : String) (parse? : String → Option Document := Yaml.parse?) :
    Except SettingsError Settings :=
  match (parse? text).bind Settings.read? with
  | some s => s.checked
  | none => .error (.unparsable text)

/-- The settings in a file. -/
def Settings.ofFile (file : Except String String)
    (parse? : String → Option Document := Yaml.parse?) : Except SettingsError Settings :=
  match file with
  | .ok text => Settings.ofYaml text parse?
  | .error reason => .error (.unreadable "yaml_file" "file read failed" reason)

/-- The draft of a catalog in a text. -/
def CatalogDraft.ofYaml (text : String) (parse? : String → Option Document := Yaml.parse?) :
    Except CatalogError CatalogDraft :=
  match (parse? text).bind CatalogDraft.read? with
  | some draft => .ok draft
  | none => .error .unparsable

/-- The draft of a catalog in a file. -/
def CatalogDraft.ofFile (path : String) (file : Except String String)
    (parse? : String → Option Document := Yaml.parse?) : Except CatalogError CatalogDraft :=
  match file with
  | .ok text => CatalogDraft.ofYaml text parse?
  | .error reason => .error (.unreadable path reason)

/-- The catalog in a file. -/
def Catalog.ofFile (path : String) (file : Except String String)
    (parse? : String → Option Document := Yaml.parse?) : Except CatalogError Catalog := do
  (← CatalogDraft.ofFile path file parse?).build

namespace Arguments

/-- The settings of a command. -/
def settings (a : Arguments) (s : Surroundings) : Except Failure Settings := do
  let fromEnvironment ← (Settings.ofEnvironment s.environment).mapError .environment
  let base ← match a.config with
    | some path => (Settings.ofFile (s.file path) s.parse?).mapError (.settingsFile path)
    | none => .ok fromEnvironment
  (base.override a.overrides).checked.mapError .options

/-- A document of some kind. -/
def document {α : Type} (s : Surroundings) (path : String) (read : Document → Option α) :
    Except Failure α := do
  let text ← (s.file path).mapError (.unreadable path)
  match (s.parse? text).bind read with
  | some x => .ok x
  | none => .error (.unparsable path)

/-- The catalog of a command. -/
def catalog (s : Surroundings) (path : String) : Except Failure Catalog :=
  (Catalog.ofFile path (s.file path) s.parse?).mapError (.catalogFile path)

/-- The output of a command. -/
def run (a : Arguments) (s : Surroundings) : Except Failure Json := do
  let settings ← a.settings s
  match a.command with
  | .select catalogPath path =>
    let catalog ← catalog s catalogPath
    let criteria ← document s path Criteria.read?
    let select ← (criteria.compile catalog settings).outcome.mapError .compilation
    return select.toJson
  | .update catalogPath path =>
    let catalog ← catalog s catalogPath
    let update ← document s path Update.read?
    let statement ← (update.compile catalog settings.dialect).outcome.mapError .compilation
    return statement.toJson

end Arguments

end BoundQuery
