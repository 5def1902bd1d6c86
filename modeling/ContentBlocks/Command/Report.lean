import ContentBlocks.Batch.Run
import ContentBlocks.Command.Arguments
import ContentBlocks.Command.Terminal
import ContentBlocks.Text.Letter

/-!
# What commands do

The four commands as functions on the disk and the environment.  Each ends with lines for readers,
the lines of the log that are shown, and the disk as it leaves it.  Errors are told on the second
channel; a few causes are not told but end the program as they are.

## Main definitions

* `Report.ofWords`: what comes of a command line.
-/

namespace ContentBlocks.Command

open Batch (LogLine Plan)
open Storage (Disk Path Trouble)

/-- What a command finds. -/
structure World where
  readers : Readers
  disk : Disk
  environment : Settings.Environment
  keys : Key.Source
  /-- The moment that documents are marked with. -/
  now : String

/-- A cause that is not told. -/
inductive Escape where
  | settings (cause : Settings.Failure)
  | source (cause : Source.Failure)
  | storage (trouble : Trouble)

/-- How a command ends. -/
inductive Ending where
  | misused
  | help
  | exit (code : Nat)
  | escape (cause : Escape)

/-- What comes of a command. -/
structure Report where
  ending : Ending
  output : List String
  errors : List String
  disk : Disk

/-- The causes among those of YAML that are told. -/
def isToldYaml (cause : Yaml.Failure) : Bool := cause = .malformed || cause.message?.isSome

/-- The causes among those of settings that are told. -/
def isToldSettings : Settings.Failure → Bool
  | .yaml cause => isToldYaml cause
  | .notUtf8 | .invalid _ => true
  | .storage _ | .notFields | .notOverridable => false

/-- The causes among those of sources that are told. -/
def isToldSource : Source.Failure → Bool
  | .header (.yaml cause) => isToldYaml cause
  | _ => true

/-- A line that tells an error. -/
def errorLine (text : String) : String := plain ("Error: " ++ text)

namespace Report

variable (w : World)

/-- The report of a command that fails with an error told in some lines. -/
def failed (errors : List String) : Report := ⟨.exit 1, [], errors, w.disk⟩

/-- The lines of a log that are shown at a level. -/
def shown (threshold : LogLevel) (log : List LogLine) : List String :=
  (log.filter fun l => threshold.shows l.level).map LogLine.shown

/-- The level of the log: the one that is given, in letters of any case, or that of the settings,
which count as silent about it if they cannot be had. -/
def threshold (given : Option String) : Except Report LogLevel :=
  match given with
  | some name =>
    match LogLevel.ofName? (.ofList (Text.upper name.toList)) with
    | some l => .ok l
    | none => .error (failed w [errorLine ("Invalid log level " ++ Text.quoted name ++
        "; expected one of " ++ ", ".intercalate (LogLevel.all.map LogLevel.name))])
  | none =>
    match Settings.load w.readers w.disk w.environment [] with
    | .ok settings => .ok settings.logLevel
    | .error cause =>
      if isToldSettings cause then .ok .warning
      else .error ⟨.escape (.settings cause), [], [], w.disk⟩

/-- The settings with overrides. -/
def settings (overrides : Settings.Overrides) : Except Report Settings :=
  match Settings.load w.readers w.disk w.environment overrides with
  | .ok settings => .ok settings
  | .error cause =>
    .error (if isToldSettings cause then failed w [errorLine cause.message]
      else ⟨.escape (.settings cause), [], [], w.disk⟩)

/-- The overrides that options of a conversion make. -/
def overrides (outDir parserConfig : Option String) (noValidate : Bool) : Settings.Overrides :=
  [("output_dir", (outDir.map Json.str).getD .null),
   ("parser_config", (parserConfig.map Json.str).getD .null),
   ("validate_output", if noValidate then .bool false else .null)]

/-- The report of a conversion. -/
def convert (level : LogLevel) (path : String) (settings : Settings) : Report :=
  match Batch.run ⟨w.readers, settings, w.keys, w.now⟩ w.disk (.ofText path) with
  | .error trouble => ⟨.escape (.storage trouble), [], [], w.disk⟩
  | .ok outcome =>
    let log := shown level outcome.log
    match outcome.failure, outcome.results with
    | some failure, _ =>
      ⟨.exit 1, [], log ++ [errorLine (Batch.failureText failure)], outcome.disk⟩
    | none, [] => ⟨.exit 1, ["No .md/.mdx files found."], log, outcome.disk⟩
    | none, results =>
      let lines := results.map fun (source, out) => "  " ++ source.toText ++ " -> " ++ out.toText
      let last := "Converted " ++ toString results.length ++ " document(s) to " ++
        settings.outputDir ++ "/"
      ⟨.exit 0, (lines ++ [last]).map plain, log, outcome.disk⟩

/-- The report of a command that looks at the blocks of one file: `tell` says what it finds, and
with what lines of the log. -/
def onBlocks (level : LogLevel) (path : String) (settings : Settings)
    (tell : List Block → List LogLine × Except String (List String)) : Report :=
  let couldNot (cause : String) : List String :=
    [errorLine ("Could not convert " ++ path), plain ("  " ++ cause)]
  match Source.read w.readers.yaml w.disk (.ofText path) settings.maxFileSize with
  | .error cause =>
    if isToldSource cause then failed w (couldNot cause.message)
    else ⟨.escape (.source cause), [], [], w.disk⟩
  | .ok source =>
    let log := Batch.conversionLog w.readers.markdown settings.parserConfig source.body w.keys 0
    match convertText w.readers.markdown settings.parserConfig source.body w.keys 0 with
    | .error cause => failed w (shown level log ++ couldNot cause.message)
    | .ok (blocks, _) =>
      let (remarks, told) := tell blocks
      let log := shown level (log ++ remarks)
      match told with
      | .ok lines => ⟨.exit 0, lines.map plain, log, w.disk⟩
      | .error text => failed w (log ++ [errorLine text])

/-- What is told about the outline of blocks. -/
def headingLines (blocks : List Block) : List String :=
  match outline blocks with
  | [] => ["No headings found."]
  | entries => entries.map OutlineEntry.line

/-- What is told about the counts of blocks. -/
def statsLines (blocks : List Block) : List String :=
  [(ContentBlocks.stats blocks).toJson.write ⟨some 2, true⟩]

/-- What is told about the check of blocks. -/
def checkLines (path : String) (blocks : List Block) : Except String (List String) :=
  if Shape.fit blocks then
    .ok [path ++ ": OK (" ++ toString blocks.length ++ " blocks)"]
  else .error (path ++ ": converted blocks failed validation")

/-- The report of a command. -/
def ofAction (level : LogLevel) (action : Action) : Report :=
  let withSettings (os : Settings.Overrides) (go : Settings → Report) : Report :=
    match settings w os with
    | .ok settings => go settings
    | .error report => report
  match action with
  | .convert path outDir parserConfig noValidate =>
    withSettings (overrides outDir parserConfig noValidate) (convert w level path)
  | .headings path =>
    withSettings [] fun s => onBlocks w level path s fun bs => ([], .ok (headingLines bs))
  | .stats path =>
    withSettings [] fun s => onBlocks w level path s fun bs => ([], .ok (statsLines bs))
  | .check path =>
    withSettings [] fun s => onBlocks w level path s fun bs =>
      (Batch.checkLog bs, checkLines path bs)

/-- What comes of a command line.  The name of the command is looked at first, then the level of the
log, and only then the words left for the command. -/
def ofWords (words : List String) : Report :=
  match Invocation.ofWords words with
  | .misused => ⟨.misused, [], [], w.disk⟩
  | .help => ⟨.help, [], [], w.disk⟩
  | .asked i =>
    match threshold w i.logLevel with
    | .error report => report
    | .ok level =>
      match Action.ofWords i.name i.words with
      | .misused => ⟨.misused, [], [], w.disk⟩
      | .help => ⟨.help, [], [], w.disk⟩
      | .asked action => ofAction w level action

end Report

end ContentBlocks.Command
