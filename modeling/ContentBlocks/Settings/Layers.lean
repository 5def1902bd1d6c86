import ContentBlocks.Readers
import ContentBlocks.Settings.Basic
import ContentBlocks.Source.Basic

/-!
# Where settings come from

Settings are layered: a file in the working folder, the environment above it, and above both what
the caller overrides.  Each layer is put over what was said before; an empty variable and an
override by null say nothing.

## Main definitions

* `Settings.layered`: what the layers say together.
* `Settings.load`: the settings of a run, or why there are none.
-/

namespace ContentBlocks

namespace Settings

open Schema
open Storage (Disk Path Trouble)

/-- The variables of the environment. -/
abbrev Environment := List (String × String)

/-- Overrides by the name of the field.  Only JSON values are overrides here, while settings can be
given a value of any kind. -/
abbrev Overrides := List (String × Json)

/-- Why there are no settings. -/
inductive Failure where
  | storage (trouble : Trouble)
  | notUtf8
  | yaml (cause : Yaml.Failure)
  /-- The file says something, but is no mapping from names. -/
  | notFields
  /-- The file says something that nothing can be put over. -/
  | notOverridable
  | invalid (issues : List Issue)
  deriving DecidableEq

/-- What a message says about a cause that is told. -/
def Failure.message : Failure → String
  | .yaml .malformed => "Invalid config.yaml: " ++ Text.withheld
  | .yaml cause => cause.message?.getD Text.withheld
  | .storage trouble => trouble.message
  | _ => Text.withheld

/-- A YAML value as a scalar.  A broken text is refused like bytes that are no text. -/
def scalarOf : Yaml.Value → Scalar
  | .str s => .text s
  | .int n => .whole n
  | .float x => .real x
  | .bool b => .truth b
  | .bytes bs =>
    match Text.ofUtf8? bs with
    | some s => .text s
    | none => .garbled
  | .broken _ => .garbled
  | _ => .other

/-- The name of the variable for a field. -/
def variableName (field : String) : String :=
  "MDBLOCKS_" ++ String.ofList (field.toList.map Char.toUpper)

/-- What the environment says about a field. -/
def fromEnvironment (env : Environment) (field : String) : Option Scalar :=
  ((env.lookup (variableName field)).filter (!·.isEmpty)).map .text

/-- What overrides say about a field. -/
def fromOverrides (overrides : Overrides) (field : String) : Option Scalar :=
  match overrides.lookup field with
  | none | some .null => none
  | some v => some (.ofJson v)

/-- What is said about fields, by their names. -/
abbrev Said := List (String × Scalar)

/-- What the file says. -/
def fromConfig (config : Header) : Said :=
  config.filterMap fun (k, v) =>
    match k with
    | .str name => some (name, scalarOf v)
    | _ => none

/-- With something said about a field, in the place of what was said about it before. -/
def Said.put (field : String) (s : Scalar) : Said → Said
  | [] => [(field, s)]
  | (name, t) :: rest => if name = field then (field, s) :: rest else (name, t) :: put field s rest

/-- With what a layer says about some fields put over what was said before. -/
def Said.putLayer (layer : String → Option Scalar) (fields : List String) (said : Said) : Said :=
  fields.foldl
    (fun said field =>
      match layer field with
      | some s => said.put field s
      | none => said)
    said

/-- What the layers say together. -/
def layered (config : Header) (env : Environment) (overrides : Overrides) : Said :=
  ((fromConfig config).putLayer (fromEnvironment env) fieldNames).putLayer
    (fromOverrides overrides) (overrides.map Prod.fst)

/-- Whether a value can have something put over it: a mapping, or a set, which is refused later. -/
def isOverridable : Yaml.Value → Bool
  | .map _ | .set _ => true
  | _ => false

/-- Whether all keys are names. -/
def areNames (config : Header) : Bool :=
  config.all fun (k, _) =>
    match k with
    | .str _ | .broken _ => true
    | _ => false

/-- The settings from the value of the file and the layers above it.  A file that says nothing
counts as an empty mapping. -/
def ofLayers (take : Coercion) (config : Yaml.Value) (env : Environment) (overrides : Overrides) :
    Except Failure Settings :=
  let config := if config.truthy then config else .map []
  let isSet := fieldNames.any fun f => (fromEnvironment env f).isSome
  match config with
  | .map entries =>
    if areNames entries then
      (check take fun field => (layered entries env overrides).lookup field).mapError .invalid
    else .error .notFields
  | config =>
    if !isSet && !overrides.isEmpty && !isOverridable config then .error .notOverridable
    else .error .notFields

/-- The path of the file. -/
def configPath : Path := .ofText "config.yaml"

/-- The value of the file; null where there is none. -/
def configValue (load : String → Except Yaml.Failure Yaml.Value) (disk : Disk) :
    Except Failure Yaml.Value :=
  match disk.find configPath with
  | .error _ => .ok .null
  | .ok (.folder _) => .error (.storage ⟨.isFolder, configPath⟩)
  | .ok (.file bytes) =>
    match Source.textOf bytes with
    | .error _ => .error .notUtf8
    | .ok text => (load text).mapError .yaml

/-- The settings of a run. -/
def load (readers : Readers) (disk : Disk) (env : Environment) (overrides : Overrides) :
    Except Failure Settings :=
  (configValue readers.yaml disk).bind fun config =>
    ofLayers readers.scalars config env overrides

end Settings

end ContentBlocks
