import BoundQuery.Statement.Dialect
import BoundQuery.Text.Letter

/-!
# Settings

The settings of a compilation: the dialect and the names that it generates.

## Main definitions

* `Settings`, with their defaults
* `Settings.faults`, what is wrong with settings
* `Overrides`, the settings that a caller gives, and `Settings.override`
-/

namespace BoundQuery

/-- The settings of a compilation. -/
structure Settings where
  dialect : Dialect := .mysql
  /-- The label of the count. -/
  countAlias : String := "count"
  /-- What stands for a dot in the labels of aggregates. -/
  separator : String := "$"
  /-- The start of generated labels, before their number. -/
  stem : String := "c"
  deriving Inhabited

/-- What is wrong with settings. -/
inductive SettingsFault where
  | emptyCountAlias
  | badSeparator
  | badStem
  deriving DecidableEq

namespace SettingsFault

/-- The field that is at fault. -/
def field : SettingsFault → String
  | .emptyCountAlias => "count_alias"
  | .badSeparator => "alias_separator"
  | .badStem => "result_alias_prefix"

/-- The rule that is broken. -/
def code : SettingsFault → String
  | .emptyCountAlias => "length"
  | .badSeparator => "alias_separator"
  | .badStem => "result_alias_prefix"

/-- The message of a fault. -/
def message : SettingsFault → String
  | .emptyCountAlias => "Count alias cannot be empty"
  | .badSeparator => "Alias separator must be a single non-alphanumeric character other than '.'"
  | .badStem => "Result alias prefix must be non-empty and alphabetic"

end SettingsFault

/-- May the text stand for a dot in labels? It is one character that is neither a dot, nor a letter
or numeral, nor blank. -/
def isSeparator (s : String) : Bool :=
  match s.toList with
  | [c] => c != '.' && !Text.isLetterOrNumeral c && !Text.isBlank c
  | _ => false

/-- May the text start generated labels? -/
def isStem (s : String) : Bool :=
  !s.isEmpty && s.toList.all Char.isAlpha

/-- The settings that a caller gives; the others stay as they are. -/
structure Overrides where
  dialect : Option Dialect := none
  countAlias : Option String := none
  separator : Option String := none
  stem : Option String := none
  deriving DecidableEq

namespace Settings

/-- What is wrong with the settings. -/
def faults (s : Settings) : List SettingsFault :=
  (if s.countAlias.isEmpty then [.emptyCountAlias] else []) ++
    (if isSeparator s.separator then [] else [.badSeparator]) ++
    (if isStem s.stem then [] else [.badStem])

/-- The settings with those that a caller gives. -/
def override (s : Settings) (o : Overrides) : Settings where
  dialect := o.dialect.getD s.dialect
  countAlias := o.countAlias.getD s.countAlias
  separator := o.separator.getD s.separator
  stem := o.stem.getD s.stem

end Settings

/-- Why settings are refused. -/
inductive SettingsError where
  /-- A field with a value that cannot be read, and the reason. -/
  | unreadable (field value reason : String)
  /-- The text is no settings document. -/
  | unparsable (content : String)
  | invalid (faults : List SettingsFault)
  deriving DecidableEq

namespace SettingsError

/-- The fields at fault with their messages. -/
def faultsText (faults : List SettingsFault) : String :=
  Text.joinWith "\n" (faults.map fun f => f.field ++ ": " ++ f.message)

/-- The message of an error. -/
def message : SettingsError → String
  | .unreadable field value reason =>
    "Parse error for " ++ field ++ ": " ++ value ++ " - " ++ reason
  | .unparsable content =>
    "Parse error for yaml_content: " ++ content ++ " - " ++ "not a settings document"
  | .invalid faults => "Validation error: " ++ faultsText faults

/-- What lies behind an error. -/
def cause : SettingsError → String
  | .unreadable _ _ reason => reason
  | .unparsable _ => "not a settings document"
  | .invalid faults => faultsText faults

end SettingsError

namespace Settings

/-- The settings, when nothing is wrong with them. -/
def checked (s : Settings) : Except SettingsError Settings :=
  if s.faults.isEmpty then .ok s else .error (.invalid s.faults)

/-- The environment variable of the dialect. -/
def dialectVariable : String := "CRITERIA_SQL_DIALECT"

/-- The settings of an environment. -/
def ofEnvironment (lookup? : String → Option String) : Except SettingsError Settings :=
  let named := (lookup? dialectVariable).getD "mysql"
  match Dialect.read? named with
  | none => .error (.unreadable dialectVariable named (Dialect.unknownMessage named))
  | some dialect =>
    checked {
      dialect
      countAlias := (lookup? "CRITERIA_SQL_COUNT_ALIAS").getD "count"
      separator := (lookup? "CRITERIA_SQL_ALIAS_SEPARATOR").getD "$"
      stem := (lookup? "CRITERIA_SQL_RESULT_ALIAS_PREFIX").getD "c" }

end Settings

end BoundQuery
