import ContentBlocks.Proofs.Settings.Layers

/-!
# Settings field by field

The fields of settings are checked side by side: whether one of them is accepted, with which value
and with which fault depends on what is said about this field alone. Together with the order of the
layers this settles what a run is told: what a layer says below another one that says something, or
about no field at all, is not heard.

## Main definitions

* `Field`: the fields, with the values they have and the scalars they accept
* `rejected`: the fields whose scalars are not accepted, with what is wrong with them
* `HeardAlike`: layers of which the topmost that says anything about a field says the same

## Main results

* `check_eq_ok_iff`: settings are made of the values of their fields
* `eq_rejected_of_check`: the issues are those of the fields
* `load_field_by_field`: what is loaded from a file with entries and the layers above it
-/

namespace ContentBlocks

namespace Schema.Checked

variable {α β : Type} {f : Checked (α → β)} {a : Checked α} {b : β}

/-- The issues of a check, none where there is a value. -/
def issues : Checked α → List Issue
  | .ok _ => []
  | .error is => is

theorem both_eq_ok_iff : both f a = .ok b ↔ ∃ g x, f = .ok g ∧ a = .ok x ∧ g x = b := by
  rcases f with is | g <;> rcases a with js | x <;> simp [both]

theorem issues_both : (both f a).issues = f.issues ++ a.issues := by
  rcases f with is | g <;> rcases a with js | x <;> simp [both, issues]

end Schema.Checked

namespace Settings

open Schema
open Storage (Disk)

variable {readers : Readers} {take : Coercion} {d : Disk} {v : Yaml.Value} {entries : Header}
  {env : Environment} {os : Overrides} {given : String → Option Scalar} {settings : Settings}

/-! ### Fields -/

/-- A field of settings. -/
inductive Field where
  | appName
  | parserConfig
  | outputDir
  | maxFileSize
  | validateOutput
  | jsonIndent
  | logLevel

namespace Field

/-- All fields, in the order in which they are checked. -/
def all : List Field :=
  [.appName, .parserConfig, .outputDir, .maxFileSize, .validateOutput, .jsonIndent, .logLevel]

/-- The name of a field. -/
def name : Field → String
  | .appName => "app_name"
  | .parserConfig => "parser_config"
  | .outputDir => "output_dir"
  | .maxFileSize => "max_file_size"
  | .validateOutput => "validate_output"
  | .jsonIndent => "json_indent"
  | .logLevel => "log_level"

/-- The values of a field. -/
def Value : Field → Type
  | .appName | .parserConfig | .outputDir => String
  | .maxFileSize | .jsonIndent => Int
  | .validateOutput => Bool
  | .logLevel => LogLevel

/-- The value that a field accepts a scalar for, or what is wrong with it. -/
def accept (take : Coercion) : (f : Field) → Scalar → Except Problem f.Value
  | .appName | .parserConfig | .outputDir => take.text
  | .maxFileSize => atLeast take 1
  | .validateOutput => take.truth
  | .jsonIndent => atLeast take 0
  | .logLevel => levelOf take

/-- The value of a field in settings. -/
def get (settings : Settings) : (f : Field) → f.Value
  | .appName => settings.appName
  | .parserConfig => settings.parserConfig
  | .outputDir => settings.outputDir
  | .maxFileSize => settings.maxFileSize
  | .validateOutput => settings.validateOutput
  | .jsonIndent => Int.ofNat settings.jsonIndent
  | .logLevel => settings.logLevel

/-- The check of a field. -/
def check (take : Coercion) (f : Field) (given : String → Option Scalar) : Checked f.Value :=
  Settings.field given f.name (f.get standard) (f.accept take)

/-- What is wrong with what is given for a field. -/
def problem? (take : Coercion) (f : Field) (given : String → Option Scalar) : Option Problem :=
  (given f.name).bind fun s =>
    match f.accept take s with
    | .ok _ => none
    | .error problem => some problem

theorem exists_name_eq {field : String} (h : field ∈ fieldNames) : ∃ f : Field, f.name = field := by
  have hnames : fieldNames = all.map name := rfl
  rw [hnames, List.mem_map] at h
  obtain ⟨f, -, hname⟩ := h
  exact ⟨f, hname⟩

theorem check_eq_ok_iff {f : Field} {a : f.Value} :
    f.check take given = .ok a ↔
      match given f.name with
      | none => a = f.get standard
      | some s => f.accept take s = .ok a := by
  unfold check field
  cases given f.name with
  | none => simp [eq_comm]
  | some s =>
    dsimp only
    cases f.accept take s <;> simp [Checked.ofScalar, Checked.fail, Checked.under]

theorem issues_check (f : Field) :
    (f.check take given).issues =
      ((f.problem? take given).map fun problem => ⟨[.field f.name], problem⟩).toList := by
  unfold check field problem?
  cases given f.name with
  | none => rfl
  | some s =>
    dsimp only [Option.bind_some]
    cases f.accept take s <;> rfl

end Field

/-! ### The check -/

/-- The fields of which what is given is not accepted, with what is wrong with it. -/
def rejected (take : Coercion) (given : String → Option Scalar) : List Issue :=
  Field.all.filterMap fun f =>
    (f.problem? take given).map fun problem => ⟨[.field f.name], problem⟩

theorem le_of_atLeast {least n : Int} {s : Scalar} (h : atLeast take least s = .ok n) :
    least ≤ n := by
  unfold atLeast at h
  cases hwhole : take.whole s with
  | error problem => rw [hwhole] at h; cases h
  | ok m =>
    rw [hwhole] at h
    dsimp only [Except.bind] at h
    split_ifs at h with hless
    cases h
    exact Int.not_lt.mp hless

theorem jsonIndent_nonneg {n : Int} (h : Field.jsonIndent.check take given = .ok n) : 0 ≤ n := by
  have hgiven := Field.check_eq_ok_iff.mp h
  split at hgiven
  · rw [hgiven]
    exact Int.natCast_nonneg _
  · exact le_of_atLeast hgiven

/-- Settings from the values of the fields. -/
def ofValues (appName : Field.Value .appName) (parserConfig : Field.Value .parserConfig)
    (outputDir : Field.Value .outputDir) (maxFileSize : Field.Value .maxFileSize)
    (validateOutput : Field.Value .validateOutput) (jsonIndent : Field.Value .jsonIndent)
    (logLevel : Field.Value .logLevel) : Settings :=
  ⟨appName, parserConfig, outputDir, maxFileSize, validateOutput, Int.toNat jsonIndent, logLevel⟩

open Checked in
theorem check_eq (given : String → Option Scalar) :
    check take given = both (both (both (both (both (both (both (.ok ofValues)
      (Field.check take .appName given)) (Field.check take .parserConfig given))
      (Field.check take .outputDir given)) (Field.check take .maxFileSize given))
      (Field.check take .validateOutput given)) (Field.check take .jsonIndent given))
      (Field.check take .logLevel given) :=
  rfl

/-- **Settings are made of the values of their fields**, each of which is checked by itself. -/
theorem check_eq_ok_iff :
    check take given = .ok settings ↔ ∀ f : Field, f.check take given = .ok (f.get settings) := by
  rw [check_eq]
  constructor
  · intro h
    simp only [Checked.both_eq_ok_iff] at h
    obtain ⟨_, logLevel, ⟨_, jsonIndent, ⟨_, validateOutput, ⟨_, maxFileSize, ⟨_, outputDir,
      ⟨_, parserConfig, ⟨_, appName, hmade, happName, rfl⟩, hparserConfig, rfl⟩, houtputDir, rfl⟩,
      hmaxFileSize, rfl⟩, hvalidateOutput, rfl⟩, hjsonIndent, rfl⟩, hlogLevel, rfl⟩ := h
    cases hmade
    rintro (_ | _ | _ | _ | _ | _ | _)
    · exact happName
    · exact hparserConfig
    · exact houtputDir
    · exact hmaxFileSize
    · exact hvalidateOutput
    · -- the indentation is kept as the natural number that it is
      have hkept : Int.ofNat (Int.toNat jsonIndent) = jsonIndent :=
        Int.toNat_of_nonneg (jsonIndent_nonneg hjsonIndent)
      exact hjsonIndent.trans (congrArg Except.ok hkept.symm)
    · exact hlogLevel
  · intro h
    rw [h .appName, h .parserConfig, h .outputDir, h .maxFileSize, h .validateOutput,
      h .jsonIndent, h .logLevel]
    rfl

/-- There are settings if every field is accepted. -/
theorem exists_check_iff :
    (∃ settings, check take given = .ok settings) ↔
      ∀ f : Field, ∃ a, f.check take given = .ok a := by
  constructor
  · rintro ⟨settings, h⟩ f
    exact ⟨_, check_eq_ok_iff.mp h f⟩
  · intro h
    choose value hvalue using h
    rw [check_eq, hvalue .appName, hvalue .parserConfig, hvalue .outputDir, hvalue .maxFileSize,
      hvalue .validateOutput, hvalue .jsonIndent, hvalue .logLevel]
    exact ⟨_, rfl⟩

theorem issues_check : (check take given).issues = rejected take given := by
  calc
    (check take given).issues = Field.all.flatMap fun f => (f.check take given).issues := by
      rw [check_eq]
      simp only [Checked.issues_both, Field.all, List.flatMap_cons, List.flatMap_nil,
        List.append_nil, List.append_assoc]
      rfl
    _ = rejected take given := by
      rw [rejected, List.filterMap_eq_flatMap_toList]
      simp only [Field.issues_check]

/-- **Every field that is not accepted is told**, and no other. -/
theorem eq_rejected_of_check {is : List Issue} (h : check take given = .error is) :
    is = rejected take given := by
  rw [← issues_check, h]
  rfl

/-! ### The layers -/

/-- Overrides that say nothing about a field. -/
def SilentOverrides (os : Overrides) (field : String) : Prop :=
  os.lookup field = none ∨ os.lookup field = some .null

/-- An environment that says nothing about a field. -/
def SilentEnvironment (env : Environment) (field : String) : Prop :=
  env.lookup (variableName field) = none ∨ env.lookup (variableName field) = some ""

theorem fromOverrides_eq_none_iff {field : String} :
    fromOverrides os field = none ↔ SilentOverrides os field := by
  unfold fromOverrides SilentOverrides
  split
  · next h => simp [h]
  · next h => simp [h]
  · next j hnull hj => simpa [hj] using hnull

theorem fromEnvironment_eq_none_iff {field : String} :
    fromEnvironment env field = none ↔ SilentEnvironment env field := by
  unfold fromEnvironment SilentEnvironment
  cases env.lookup (variableName field) with
  | none => simp
  | some s => simp [Option.filter]

/-- Layers of which the topmost that says anything about a field says the same about it. -/
structure HeardAlike (field : String) (config : Header) (env : Environment) (os : Overrides)
    (config' : Header) (env' : Environment) (os' : Overrides) : Prop where
  overrides : os'.lookup field = os.lookup field ∨
    SilentOverrides os field ∧ SilentOverrides os' field
  environment : SilentOverrides os field →
    env'.lookup (variableName field) = env.lookup (variableName field) ∨
      SilentEnvironment env field ∧ SilentEnvironment env' field
  config : SilentOverrides os field → SilentEnvironment env field →
    Yaml.Value.field? field config' = Yaml.Value.field? field config

namespace HeardAlike

variable {field : String} {entries' : Header} {env' : Environment} {os' : Overrides}

theorem fromOverrides_eq (h : HeardAlike field entries env os entries' env' os') :
    fromOverrides os' field = fromOverrides os field := by
  rcases h.overrides with heq | ⟨hsilent, hsilent'⟩
  · rw [fromOverrides, fromOverrides, heq]
  · rw [fromOverrides_eq_none_iff.mpr hsilent, fromOverrides_eq_none_iff.mpr hsilent']

theorem fromEnvironment_eq (h : HeardAlike field entries env os entries' env' os')
    (hos : SilentOverrides os field) : fromEnvironment env' field = fromEnvironment env field := by
  rcases h.environment hos with heq | ⟨hsilent, hsilent'⟩
  · rw [fromEnvironment, fromEnvironment, heq]
  · rw [fromEnvironment_eq_none_iff.mpr hsilent, fromEnvironment_eq_none_iff.mpr hsilent']

/-- What is said below the topmost layer is not heard. -/
theorem chosen_eq (h : HeardAlike field entries env os entries' env' os') :
    chosen entries' env' os' field = chosen entries env os field := by
  rw [chosen, chosen, h.fromOverrides_eq]
  cases hover : fromOverrides os field with
  | some s => rfl
  | none =>
    have hos := fromOverrides_eq_none_iff.mp hover
    rw [h.fromEnvironment_eq hos]
    cases hvariable : fromEnvironment env field with
    | some s => rfl
    | none => rw [h.config hos (fromEnvironment_eq_none_iff.mp hvariable)]

end HeardAlike

theorem load_of_fields? (hvalue : configValue readers.yaml d = .ok v)
    (hentries : fields? v = some entries) :
    load readers d env os = (check readers.scalars (chosen entries env os)).mapError .invalid := by
  rw [load, hvalue]
  exact ofLayers_of_fields? hentries env os

/-- **What is loaded from a file with entries and the layers above it.** There are settings if what
is chosen for a field is accepted, for every field, and then they have the accepted values, or those
of the field where nothing is said. If not, it is told which fields are not accepted. Nothing else
that the layers say changes this. -/
theorem load_field_by_field (hvalue : configValue readers.yaml d = .ok v)
    (hentries : fields? v = some entries) (env : Environment) (os : Overrides) :
    ((∃ settings, load readers d env os = .ok settings) ↔
      ∀ (f : Field) (s : Scalar), chosen entries env os f.name = some s →
        ∃ a, f.accept readers.scalars s = .ok a) ∧
    (∀ settings, load readers d env os = .ok settings → ∀ f : Field,
      match chosen entries env os f.name with
      | none => f.get settings = f.get standard
      | some s => f.accept readers.scalars s = .ok (f.get settings)) ∧
    (∀ cause, load readers d env os = .error cause →
      cause = .invalid (rejected readers.scalars (chosen entries env os))) ∧
    ∀ (d' : Disk) (v' : Yaml.Value) (entries' : Header) (env' : Environment) (os' : Overrides),
      configValue readers.yaml d' = .ok v' → fields? v' = some entries' →
        (∀ f : Field, HeardAlike f.name entries env os entries' env' os') →
          load readers d' env' os' = load readers d env os := by
  have hload : load readers d env os =
      (check readers.scalars (chosen entries env os)).mapError .invalid :=
    load_of_fields? hvalue hentries
  have hok {settings : Settings} :
      load readers d env os = .ok settings ↔
        check readers.scalars (chosen entries env os) = .ok settings := by
    rw [hload]
    cases check readers.scalars (chosen entries env os) <;> simp [Except.mapError]
  refine ⟨?_, ?_, ?_, ?_⟩
  · -- a field of which nothing is said has its own value, which nobody looks at
    rw [exists_congr fun _ => hok, exists_check_iff]
    refine forall_congr' fun f => ?_
    simp only [Field.check_eq_ok_iff]
    cases chosen entries env os f.name with
    | none => simp
    | some s => simp
  · intro settings hsettings f
    exact Field.check_eq_ok_iff.mp (check_eq_ok_iff.mp (hok.mp hsettings) f)
  · intro cause hcause
    rw [hload] at hcause
    cases hcheck : check readers.scalars (chosen entries env os) with
    | ok settings => rw [hcheck] at hcause; cases hcause
    | error is =>
      rw [hcheck] at hcause
      cases hcause
      rw [eq_rejected_of_check hcheck]
  · intro d' v' entries' env' os' hvalue' hentries' halike
    -- both are checks of what is chosen, and nothing but the fields is looked at
    have hchosen : ∀ field ∈ fieldNames,
        chosen entries' env' os' field = chosen entries env os field := by
      intro field hfield
      obtain ⟨f, rfl⟩ := Field.exists_name_eq hfield
      exact (halike f).chosen_eq
    rw [hload, load_of_fields? hvalue' hentries', check_congr hchosen]

/-- A disk with a file of settings that has a list for the name of the program. -/
def listForName : Disk := .ofTexts [("config.yaml", "app_name: [a]\njson_indent: 4\ncolor: 7\n")]

/-- A list for the name of the program is refused, but not below a variable with a text. An empty
variable, an override by null and a field that there is not change nothing. -/
theorem shadowed_in_config :
    ∃ v entries, configValue Yaml.read listForName = .ok v ∧ fields? v = some entries ∧
      rejected .lax (chosen entries [] []) = [⟨[.field "app_name"], .notText⟩] ∧
      load .standard listForName [("MDBLOCKS_APP_NAME", "b"), ("MDBLOCKS_OUTPUT_DIR", "")]
          [("log_level", .str "DEBUG"), ("json_indent", .null), ("size", .int 3)] =
        load .standard listForName [("MDBLOCKS_APP_NAME", "b")] [("log_level", .str "DEBUG")] ∧
      load .standard listForName [("MDBLOCKS_APP_NAME", "b")] [("log_level", .str "DEBUG")] =
        .ok { standard with appName := "b", jsonIndent := 4, logLevel := .debug } := by
  have hfile : ((configValue Yaml.read listForName).toOption.bind fields?).isSome = true := by
    decide +kernel
  have hrefused : load .standard listForName [] [] =
      .error (.invalid [⟨[.field "app_name"], .notText⟩]) := by
    decide +kernel
  obtain ⟨v, entries, hvalue, hentries⟩ :
      ∃ v entries, configValue Readers.standard.yaml listForName = .ok v ∧
        fields? v = some entries := by
    cases hvalue : configValue Yaml.read listForName with
    | error cause => rw [hvalue] at hfile; cases hfile
    | ok v =>
      rw [hvalue] at hfile
      obtain ⟨entries, hentries⟩ := Option.isSome_iff_exists.mp hfile
      exact ⟨v, entries, hvalue, hentries⟩
  refine ⟨v, entries, hvalue, hentries, ?_, ?_, by decide +kernel⟩
  · obtain ⟨-, -, htold, -⟩ := load_field_by_field hvalue hentries [] []
    exact (Failure.invalid.inj (htold _ hrefused)).symm
  · obtain ⟨-, -, -, halike⟩ := load_field_by_field hvalue hentries
      [("MDBLOCKS_APP_NAME", "b")] [("log_level", .str "DEBUG")]
    refine halike listForName v entries _ _ hvalue hentries fun f => ⟨?_, ?_, ?_⟩
    · cases f <;> simp [SilentOverrides, Field.name, List.lookup_cons]
    · cases f <;> simp [SilentOverrides, SilentEnvironment, Field.name, variableName,
        List.lookup_cons]
    · intros
      rfl

end Settings

end ContentBlocks
