import ContentBlocks.Schema.Scalar

/-!
# Settings

What a run can be told, and the check of every field on its own.  Each field has a value of its own
where none is given; what is given for it is taken by a coercion, `take`.
-/

namespace ContentBlocks

/-- How much of what happens is told. -/
inductive LogLevel where
  | debug
  | info
  | warning
  | error
  | critical
  deriving DecidableEq

namespace LogLevel

/-- All levels, the most talkative first. -/
def all : List LogLevel := [.debug, .info, .warning, .error, .critical]

/-- The name of a level. -/
def name : LogLevel → String
  | .debug => "DEBUG"
  | .info => "INFO"
  | .warning => "WARNING"
  | .error => "ERROR"
  | .critical => "CRITICAL"

/-- The level with a name. -/
def ofName? (name : String) : Option LogLevel := all.find? fun l => l.name = name

/-- The weight of a level. -/
def weight : LogLevel → Nat
  | .debug => 10
  | .info => 20
  | .warning => 30
  | .error => 40
  | .critical => 50

/-- Whether a line of one level is shown at another. -/
def shows (threshold line : LogLevel) : Bool := threshold.weight ≤ line.weight

end LogLevel

/-- What a run can be told. -/
structure Settings where
  appName : String
  /-- The dialect of Markdown. -/
  parserConfig : String
  outputDir : String
  /-- The largest size of a source, in bytes. -/
  maxFileSize : Int
  /-- Whether blocks are checked before they are written. -/
  validateOutput : Bool
  /-- The indentation of the documents; none for 0. -/
  jsonIndent : Nat
  logLevel : LogLevel
  deriving DecidableEq

namespace Settings

open Schema

/-- The settings of a run that is told nothing. -/
def standard : Settings where
  appName := "mdblocks"
  parserConfig := "gfm-like"
  outputDir := "dist"
  maxFileSize := 10485760
  validateOutput := true
  jsonIndent := 2
  logLevel := .warning

/-- The names of the fields. -/
def fieldNames : List String :=
  ["app_name", "parser_config", "output_dir", "max_file_size", "validate_output", "json_indent",
   "log_level"]

variable (take : Coercion)

/-- A whole number that is not below a bound. -/
def atLeast (least : Int) (s : Scalar) : Except Problem Int :=
  (take.whole s).bind fun n => if n < least then .error .tooSmall else .ok n

/-- A level by its name. -/
def levelOf (s : Scalar) : Except Problem LogLevel :=
  (take.text s).bind fun name =>
    match LogLevel.ofName? name with
    | some l => .ok l
    | none => .error .patternMismatch

/-- The check of one field: what is given must fit, and the field's own value stands in for what is
not. -/
def field {α : Type} (given : String → Option Scalar) (name : String) (own : α)
    (check : Scalar → Except Problem α) : Checked α :=
  match given name with
  | none => .ok own
  | some s => .under (.field name) (.ofScalar (check s))

open Checked in
/-- The settings made of what is given for the fields. -/
def check (given : String → Option Scalar) : Checked Settings :=
  let made (appName parserConfig outputDir : String) (maxFileSize : Int) (validateOutput : Bool)
      (jsonIndent : Int) (logLevel : LogLevel) : Settings :=
    ⟨appName, parserConfig, outputDir, maxFileSize, validateOutput, jsonIndent.toNat, logLevel⟩
  both (both (both (both (both (both (both (.ok made)
    (field given "app_name" standard.appName take.text))
    (field given "parser_config" standard.parserConfig take.text))
    (field given "output_dir" standard.outputDir take.text))
    (field given "max_file_size" standard.maxFileSize (atLeast take 1)))
    (field given "validate_output" standard.validateOutput take.truth))
    (field given "json_indent" (standard.jsonIndent : Int) (atLeast take 0)))
    (field given "log_level" standard.logLevel (levelOf take))

end Settings

end ContentBlocks
