import BoundQuery.CommandLine.Run
import BoundQuery.Proofs.Outcome
import Mathlib.Tactic.MkIffOfInductiveProp

/-!
# Layers of settings

The environment, a settings file and the options of the command line each give some settings and
leave out the others. Options go over what lies below them, setting by setting. A file does not: it
takes the place of the environment as a whole, and what it leaves out is the default, whatever the
environment gives. All of this is so for any reader of documents.

## Main definitions

* `Overrides.above`, one layer over another, setting by setting
* `Overrides.Valid`, layers whose settings pass their checks
* `Overrides.FromVariables`, `Overrides.FromDocument`, `Overrides.FromFile`, what an environment, a
  document and a file give
* `Arguments.Layers`, the layers of a command
* `Overrides.Shadows`, layers under which another changes nothing

## Main results

* `Settings.override_above` — one layer over another is one after the other
* `Settings.checked_override_eq_ok_iff` — settings pass exactly when what is given does
* `Arguments.settings_eq_ok_iff` — the settings of a command, by its layers
* `Arguments.settings_by_layers` — which layer each setting comes from
-/

namespace BoundQuery

open Outcome

/-! ### One layer over another -/

namespace Overrides

/-- One layer over another: what the upper one leaves out is taken from the lower one. -/
def above (upper lower : Overrides) : Overrides where
  dialect := upper.dialect.or lower.dialect
  countAlias := upper.countAlias.or lower.countAlias
  separator := upper.separator.or lower.separator
  stem := upper.stem.or lower.stem

variable {o upper lower : Overrides}

theorem above_assoc (top : Overrides) : top.above (upper.above lower) = (top.above upper).above lower := by
  simp only [above, Option.or_assoc]

theorem empty_above : ({} : Overrides).above lower = lower := by
  simp only [above, Option.none_or]

/-- Each setting that the layer gives passes its check. -/
@[mk_iff]
structure Valid (o : Overrides) : Prop where
  countAlias : ∀ text, o.countAlias = some text → text ≠ ""
  separator : ∀ text, o.separator = some text → isSeparator text
  stem : ∀ text, o.stem = some text → isStem text

instance : DecidablePred Valid := fun o =>
  decidable_of_iff ((∀ text ∈ o.countAlias, text ≠ "") ∧ (∀ text ∈ o.separator, isSeparator text) ∧
    ∀ text ∈ o.stem, isStem text) (valid_iff o).symm

theorem valid_empty : ({} : Overrides).Valid := by
  constructor <;> rintro text ⟨⟩

/-- What the lower layer gives is given by the upper one too, or is the default. -/
@[mk_iff]
structure Shadows (upper lower : Overrides) : Prop where
  dialect : upper.dialect.isSome ∨ lower.dialect.getD ({} : Settings).dialect = ({} : Settings).dialect
  countAlias : upper.countAlias.isSome ∨
    lower.countAlias.getD ({} : Settings).countAlias = ({} : Settings).countAlias
  separator : upper.separator.isSome ∨
    lower.separator.getD ({} : Settings).separator = ({} : Settings).separator
  stem : upper.stem.isSome ∨ lower.stem.getD ({} : Settings).stem = ({} : Settings).stem

end Overrides

theorem Overrides.getD_eq_or_iff {α : Type} {upper lower : Option α} {initial : α} :
    upper.getD initial = (upper.or lower).getD initial ↔
      upper.isSome ∨ lower.getD initial = initial := by
  cases upper with
  | none => simp [eq_comm]
  | some v => simp

namespace Settings

variable {s r : Settings} {o upper lower : Overrides}

/-- One layer over another is one after the other. -/
theorem override_above : s.override (upper.above lower) = (s.override lower).override upper := by
  simp only [override, Overrides.above, Option.getD_or]

/-- A layer under another changes nothing exactly when the other shadows it. -/
theorem override_eq_above_iff :
    override {} upper = override {} (upper.above lower) ↔ upper.Shadows lower := by
  simp only [override, Overrides.above, mk.injEq, Overrides.getD_eq_or_iff, Overrides.shadows_iff]

/-! ### Checks -/

theorem faults_eq_nil_iff :
    s.faults = [] ↔ s.countAlias ≠ "" ∧ isSeparator s.separator ∧ isStem s.stem := by
  simp [faults]

theorem checked_eq_ok_iff : s.checked = .ok r ↔ s.faults = [] ∧ s = r := by
  rw [checked]
  by_cases sound : s.faults = []
  · simp [sound]
  · simp [sound]

theorem forall_getD_iff {α : Type} {P : α → Prop} {given : Option α} {initial : α}
    (holds : P initial) : P (given.getD initial) ↔ ∀ v, given = some v → P v := by
  cases given with
  | none => simp [holds]
  | some v => simp

/-- Over settings that pass, a layer passes exactly when what it gives does. -/
theorem faults_override_iff (sound : s.faults = []) : (s.override o).faults = [] ↔ o.Valid := by
  obtain ⟨countAlias, separator, stem⟩ := faults_eq_nil_iff.mp sound
  rw [faults_eq_nil_iff, override, forall_getD_iff (P := (· ≠ "")) countAlias,
    forall_getD_iff (P := (isSeparator ·)) separator, forall_getD_iff (P := (isStem ·)) stem,
    Overrides.valid_iff]

/-- The defaults pass. -/
theorem faults_default : ({} : Settings).faults = [] := by
  decide +kernel

theorem checked_override_eq_ok_iff (sound : s.faults = []) :
    (s.override o).checked = .ok r ↔ o.Valid ∧ s.override o = r := by
  rw [checked_eq_ok_iff, faults_override_iff sound]

end Settings

/-! ### What a layer gives -/

namespace Overrides

/-- The layer of an environment: what its variables say. -/
@[mk_iff]
structure FromVariables (lookup? : String → Option String) (o : Overrides) : Prop where
  dialect : (lookup? Settings.dialectVariable).map Dialect.read? = o.dialect.map some
  countAlias : lookup? "CRITERIA_SQL_COUNT_ALIAS" = o.countAlias
  separator : lookup? "CRITERIA_SQL_ALIAS_SEPARATOR" = o.separator
  stem : lookup? "CRITERIA_SQL_RESULT_ALIAS_PREFIX" = o.stem

instance (lookup? : String → Option String) : DecidablePred (FromVariables lookup?) := fun o =>
  decidable_of_iff' _ (fromVariables_iff lookup? o)

/-- The layer of a document: what its fields say. -/
structure FromDocument (d : Document) (o : Overrides) : Prop where
  fields : ∃ fields,
    d.fields? ["dialect", "count_alias", "alias_separator", "result_alias_prefix"] = some fields ∧
    (Document.field? "dialect" fields).map Dialect.ofDocument? = o.dialect.map some ∧
    (Document.field? "count_alias" fields).map Document.text? = o.countAlias.map some ∧
    (Document.field? "alias_separator" fields).map Document.text? = o.separator.map some ∧
    (Document.field? "result_alias_prefix" fields).map Document.text? = o.stem.map some

-- at most one list of fields comes into question
instance (d : Document) : DecidablePred (FromDocument d) := fun _ =>
  decidable_of_iff (∃ fields ∈ d.fields? _, _) ⟨FromDocument.mk, FromDocument.fields⟩

/-- The layer of a settings file, when the command line names one; otherwise it gives nothing. The
document of the file is what the reader finds in its content. -/
def FromFile (parse? : String → Option Document) (config : Option String)
    (file : String → Except String String) (o : Overrides) : Prop :=
  match config with
  | none => o = {}
  | some path => ∃ text d, file path = .ok text ∧ parse? text = some d ∧ FromDocument d o

instance (parse? : String → Option Document) (config : Option String)
    (file : String → Except String String) : DecidablePred (FromFile parse? config file) := fun o =>
  match config with
  | none => inferInstanceAs (Decidable (o = {}))
  | some path =>
    match content : file path with
    | .error _ => isFalse (by simp [FromFile, content])
    | .ok text =>
      decidable_of_iff (∃ d ∈ parse? text, FromDocument d o) (by simp [FromFile, content])

end Overrides

/-- A setting that is left out or read, with its default. -/
theorem Overrides.elim_read_eq_some_iff {α β : Type} {raw : Option β} {read : β → Option α}
    {initial v : α} : raw.elim (some initial) read = some v ↔
      ∃ given : Option α, raw.map read = given.map some ∧ given.getD initial = v := by
  cases raw with
  | none =>
    constructor
    · intro same
      exact ⟨none, rfl, Option.some.inj same⟩
    · rintro ⟨given, left, rfl⟩
      rw [Option.map_none, eq_comm, Option.map_eq_none_iff] at left
      rw [left]
      rfl
  | some b =>
    constructor
    · intro found
      exact ⟨some v, congrArg some found, rfl⟩
    · rintro ⟨given, found, rfl⟩
      rw [Option.map_some, eq_comm, Option.map_eq_some_iff] at found
      obtain ⟨w, rfl, same⟩ := found
      exact same.symm

theorem Document.defaulted_eq_elim {α : Type} (fields : List (String × Document)) (name : String)
    (read : Document → Option α) (initial : α) :
    defaulted fields name read initial = (field? name fields).elim (some initial) read := by
  rw [defaulted]
  cases field? name fields with
  | none => rfl
  | some d => rfl

namespace Settings

open Overrides

variable {r : Settings}

/-- The settings of a document are what it gives, over the defaults. -/
theorem read?_eq_some_iff {d : Document} :
    read? d = some r ↔ ∃ o, FromDocument d o ∧ override {} o = r := by
  simp only [read?, bind, Option.bind_eq_some_iff, Document.defaulted_eq_elim,
    elim_read_eq_some_iff, pure]
  constructor
  · rintro ⟨fields, given, _, ⟨dialect, ofDialect, rfl⟩, _, ⟨countAlias, ofCountAlias, rfl⟩, _,
      ⟨separator, ofSeparator, rfl⟩, _, ⟨stem, ofStem, rfl⟩, same⟩
    exact ⟨⟨dialect, countAlias, separator, stem⟩,
      ⟨fields, given, ofDialect, ofCountAlias, ofSeparator, ofStem⟩, Option.some.inj same⟩
  · rintro ⟨o, ⟨fields, given, ofDialect, ofCountAlias, ofSeparator, ofStem⟩, rfl⟩
    exact ⟨fields, given, _, ⟨_, ofDialect, rfl⟩, _, ⟨_, ofCountAlias, rfl⟩, _,
      ⟨_, ofSeparator, rfl⟩, _, ⟨_, ofStem, rfl⟩, rfl⟩

/-- The settings of an environment are what its variables give, over the defaults. -/
theorem ofEnvironment_eq_ok_iff {lookup? : String → Option String} :
    ofEnvironment lookup? = .ok r ↔
      ∃ o, FromVariables lookup? o ∧ o.Valid ∧ override {} o = r := by
  -- a variable that is not set is read as the name of the default dialect
  have named : ∀ raw : Option String, Dialect.read? (raw.getD "mysql") =
      raw.elim (some ({} : Settings).dialect) Dialect.read? := by
    intro raw
    cases raw with
    | none => decide +kernel
    | some text => simp only [Option.getD_some, Option.elim_some]
  constructor
  · intro ok
    rw [ofEnvironment] at ok
    split at ok
    · cases ok
    · next dialect found =>
      rw [named, elim_read_eq_some_iff] at found
      obtain ⟨given, ofDialect, rfl⟩ := found
      refine ⟨⟨given, lookup? "CRITERIA_SQL_COUNT_ALIAS", lookup? "CRITERIA_SQL_ALIAS_SEPARATOR",
        lookup? "CRITERIA_SQL_RESULT_ALIAS_PREFIX"⟩, ⟨ofDialect, rfl, rfl, rfl⟩, ?_⟩
      exact (checked_override_eq_ok_iff faults_default).mp ok
  · rintro ⟨o, ofVariables, valid, rfl⟩
    have found : Dialect.read? ((lookup? dialectVariable).getD "mysql") =
        some (o.dialect.getD ({} : Settings).dialect) := by
      rw [named, elim_read_eq_some_iff]
      exact ⟨o.dialect, ofVariables.dialect, rfl⟩
    rw [ofEnvironment]
    simp only [found, ofVariables.countAlias, ofVariables.separator, ofVariables.stem]
    exact (checked_override_eq_ok_iff faults_default).mpr ⟨valid, rfl⟩

/-- The settings of a file are what its document gives, over the defaults. -/
theorem ofFile_eq_ok_iff {parse? : String → Option Document} {path : String}
    {file : String → Except String String} :
    ofFile (file path) parse? = .ok r ↔
      ∃ o, FromFile parse? (some path) file o ∧ o.Valid ∧ override {} o = r := by
  constructor
  · intro ok
    cases content : file path with
    | error reason =>
      rw [content] at ok
      cases ok
    | ok text =>
      rw [content, ofFile, ofYaml] at ok
      split at ok
      · next s found =>
        obtain ⟨d, parsed, read⟩ := Option.bind_eq_some_iff.mp found
        obtain ⟨o, ofDocument, rfl⟩ := read?_eq_some_iff.mp read
        exact ⟨o, ⟨text, d, content, parsed, ofDocument⟩,
          (checked_override_eq_ok_iff faults_default).mp ok⟩
      · cases ok
  · rintro ⟨o, ⟨text, d, content, parsed, ofDocument⟩, valid, rfl⟩
    have read : read? d = some (override {} o) := read?_eq_some_iff.mpr ⟨o, ofDocument, rfl⟩
    rw [content, ofFile, ofYaml, parsed, Option.bind_some, read]
    exact (checked_override_eq_ok_iff faults_default).mpr ⟨valid, rfl⟩

end Settings

/-! ### The layers of a command -/

namespace Arguments

open Settings

/-- The layers of a command below its options, all of them valid. -/
@[mk_iff]
structure Layers (a : Arguments) (s : Surroundings) (environment file : Overrides) : Prop where
  ofEnvironment : environment.FromVariables s.environment
  ofFile : file.FromFile s.parse? a.config s.file
  validEnvironment : environment.Valid
  validFile : file.Valid
  validOptions : a.overrides.Valid

instance (a : Arguments) (s : Surroundings) (environment file : Overrides) :
    Decidable (a.Layers s environment file) :=
  decidable_of_iff' _ (layers_iff a s environment file)

variable {a : Arguments} {s : Surroundings} {r : Settings} {environment file : Overrides}

/-- Options over settings that pass, as the layers of both. -/
theorem checked_options_eq_ok_iff {below : Overrides} (valid : below.Valid) :
    ((override {} below).override a.overrides).checked = .ok r ↔
      a.overrides.Valid ∧ override {} (a.overrides.above below) = r := by
  rw [checked_override_eq_ok_iff ((faults_override_iff faults_default).mpr valid), override_above]

/-- A command has settings exactly when all its layers are valid: its options over the file, or over
the environment when there is no file. -/
theorem settings_eq_ok_iff : a.settings s = .ok r ↔ ∃ environment file,
    a.Layers s environment file ∧
      override {} (a.overrides.above (if a.config.isSome then file else environment)) = r := by
  constructor
  · intro ok
    -- the environment has to be valid even where a file takes its place
    obtain ⟨_, ofVariables, ok⟩ := bind_eq_ok.mp ok
    obtain ⟨environment, ofEnvironment, validEnvironment, rfl⟩ :=
      ofEnvironment_eq_ok_iff.mp (mapError_eq_ok.mp ofVariables)
    cases config : a.config with
    | none =>
      rw [config] at ok
      obtain ⟨validOptions, same⟩ :=
        (checked_options_eq_ok_iff validEnvironment).mp (mapError_eq_ok.mp ok)
      exact ⟨environment, {}, ⟨ofEnvironment, by rw [config]; rfl, validEnvironment,
        Overrides.valid_empty, validOptions⟩, same⟩
    | some path =>
      rw [config] at ok
      obtain ⟨_, ofContent, ok⟩ := bind_eq_ok.mp ok
      obtain ⟨file, ofFile, validFile, rfl⟩ := ofFile_eq_ok_iff.mp (mapError_eq_ok.mp ofContent)
      obtain ⟨validOptions, same⟩ :=
        (checked_options_eq_ok_iff validFile).mp (mapError_eq_ok.mp ok)
      exact ⟨environment, file, ⟨ofEnvironment, by rw [config]; exact ofFile, validEnvironment,
        validFile, validOptions⟩, same⟩
  · rintro ⟨environment, file, layers, rfl⟩
    have ofFile := layers.ofFile
    refine bind_eq_ok.mpr ⟨override {} environment, mapError_eq_ok.mpr
      (ofEnvironment_eq_ok_iff.mpr ⟨_, layers.ofEnvironment, layers.validEnvironment, rfl⟩), ?_⟩
    cases config : a.config with
    | none =>
      exact mapError_eq_ok.mpr ((checked_options_eq_ok_iff layers.validEnvironment).mpr
        ⟨layers.validOptions, rfl⟩)
    | some path =>
      rw [config] at ofFile
      refine bind_eq_ok.mpr ⟨override {} file, mapError_eq_ok.mpr
        (ofFile_eq_ok_iff.mpr ⟨file, ofFile, layers.validFile, rfl⟩), ?_⟩
      exact mapError_eq_ok.mpr ((checked_options_eq_ok_iff layers.validFile).mpr
        ⟨layers.validOptions, rfl⟩)

/-- A command with valid layers has settings, and each comes from the options, else from the file,
or from the environment when there is no file, and else is the default. So each comes from the
options, else from the file, else from the environment, exactly when there is no file, or the options
and the file give all that the environment sets to anything but its default. Settings of a command
pass their checks, and are those of valid layers. What a text says as a document is left to the
reader of the surroundings. -/
theorem settings_by_layers (a : Arguments) (s : Surroundings) :
    (∀ environment file, a.Layers s environment file →
      ∃ r, a.settings s = .ok r ∧
        r = override {} (a.overrides.above (if a.config.isSome then file else environment)) ∧
        (r = override {} (a.overrides.above (file.above environment)) ↔
          a.config = none ∨ (a.overrides.above file).Shadows environment)) ∧
    ∀ r, a.settings s = .ok r → r.faults = [] ∧ ∃ environment file, a.Layers s environment file := by
  constructor
  · intro environment file layers
    refine ⟨_, settings_eq_ok_iff.mpr ⟨environment, file, layers, rfl⟩, rfl, ?_⟩
    cases config : a.config with
    | none =>
      -- without a file the layer between is empty
      have empty : file = {} := by
        have ofFile := layers.ofFile
        rwa [config] at ofFile
      rw [empty, Overrides.empty_above]
      exact iff_of_true rfl (.inl rfl)
    | some path =>
      -- the environment would lie below the options and the file together
      rw [Overrides.above_assoc, Option.isSome_some, if_pos rfl, override_eq_above_iff]
      simp
  · intro r ok
    obtain ⟨environment, file, layers, rfl⟩ := settings_eq_ok_iff.mp ok
    refine ⟨?_, environment, file, layers⟩
    have valid : (if a.config.isSome then file else environment).Valid := by
      split
      · exact layers.validFile
      · exact layers.validEnvironment
    have sound := (faults_override_iff faults_default).mpr valid
    rw [override_above, faults_override_iff sound]
    exact layers.validOptions

end Arguments

namespace Console

/-- An environment that labels the count, beside settings files that name a dialect. One of them
labels the count as well. -/
def surroundings : Surroundings where
  environment name := if name = "CRITERIA_SQL_COUNT_ALIAS" then some "total" else none
  file path := .ok (if path = "labels.yaml" then "dialect: clickhouse\ncount_alias: rows\n"
    else "dialect: clickhouse\n")

/-- A read with or without a settings file. -/
def read (config : Option String) : Arguments where
  command := .select "catalog.yaml" "criteria.yaml"
  config
  overrides := { stem := some "k" }

/-- What the environment gives. -/
def environment : Overrides :=
  { countAlias := some "total" }

/-- What the file with a label gives. -/
def labels : Overrides :=
  { dialect := some .clickhouse, countAlias := some "rows" }

end Console

/-- Without a file the count has the label of the environment. With a file that labels it too, it has
the label of the file, and all settings come from the options, else from the file, else from the
environment. The stem is that of the options in either case. -/
theorem Arguments.settings_by_layers_labels :
    ((Console.read none).Layers Console.surroundings Console.environment {} ∧
      (Console.read none).settings Console.surroundings =
        .ok { countAlias := "total", stem := "k" }) ∧
    (Console.read (some "labels.yaml")).Layers Console.surroundings Console.environment
        Console.labels ∧
      (Console.read (some "labels.yaml")).settings Console.surroundings =
        .ok { dialect := .clickhouse, countAlias := "rows", stem := "k" } ∧
      Settings.override {} ((Console.read (some "labels.yaml")).overrides.above
          (Console.labels.above Console.environment)) =
        { dialect := .clickhouse, countAlias := "rows", stem := "k" } := by
  have unfiled : (Console.read none).Layers Console.surroundings Console.environment {} := by
    decide +kernel
  have filed : (Console.read (some "labels.yaml")).Layers Console.surroundings Console.environment
      Console.labels := by
    decide +kernel
  -- the file gives all that the environment does
  have shadows : ((Console.read (some "labels.yaml")).overrides.above Console.labels).Shadows
      Console.environment := ⟨.inl rfl, .inl rfl, .inr rfl, .inl rfl⟩
  obtain ⟨_, ofEnvironment, rfl, -⟩ := (settings_by_layers _ _).1 _ _ unfiled
  obtain ⟨_, ofFile, rfl, precedence⟩ := (settings_by_layers _ _).1 _ _ filed
  exact ⟨⟨unfiled, ofEnvironment⟩, filed, ofFile, (precedence.mpr (.inr shadows)).symm⟩

/-- With a file that only names a dialect the count has its default label, although the environment
gives it another, and neither the file nor the options do. -/
theorem Arguments.settings_of_partial_file :
    Console.surroundings.environment "CRITERIA_SQL_COUNT_ALIAS" = some "total" ∧
      (Console.read (some "settings.yaml")).overrides.countAlias = none ∧
      ((Console.read (some "settings.yaml")).settings Console.surroundings).toOption.map
          (fun r => (r.dialect, r.countAlias, r.separator, r.stem)) =
        some (.clickhouse, "count", "$", "k") :=
  ⟨rfl, rfl, by decide +kernel⟩

end BoundQuery
