import ContentBlocks.Batch.Document
import ContentBlocks.Block.Check
import ContentBlocks.Conversion.Document
import ContentBlocks.Readers
import ContentBlocks.Settings.Layers
import ContentBlocks.Storage.Discovery

/-!
# Runs

A run converts everything that a path offers, one source after the other, and writes one document
for each.  The sources are found before anything is written.  The first source that fails ends the
run; what was written before stays.

## Main definitions

* `convertSource`: the document of the source at a path.
* `run`: the outcome of a run.
-/

namespace ContentBlocks

namespace Batch

open Storage (Disk Path Trouble Storing)

/-- A line of the log. -/
structure LogLine where
  level : LogLevel
  text : String
  deriving DecidableEq

/-- A line as it is shown. -/
def LogLine.shown (l : LogLine) : String := l.level.name ++ ": " ++ l.text

/-- What a run is given apart from the disk. -/
structure Plan where
  readers : Readers
  settings : Settings
  keys : Key.Source
  /-- The moment that documents are marked with. -/
  now : String

/-- Why a source has no document. -/
inductive Failure where
  | source (cause : Source.Failure)
  | conversion (cause : Conversion.Error)
  /-- The blocks are not fit to be written. -/
  | unfit
  /-- The slug is no text, or a key of the header is no name. -/
  | noDocument
  /-- A value of the header cannot be written. -/
  | unwritable
  | storage (trouble : Trouble)
  deriving DecidableEq

/-- What a message says about a source without a document. -/
def Failure.message : Failure → String
  | .source cause => cause.message
  | .conversion cause => cause.message
  | .unfit => "Converted blocks failed validation"
  | .noDocument => Text.withheld
  | .unwritable => Text.withheld
  | .storage trouble => trouble.message

/-- What the check remarks on a fault. -/
def faultText : Shape.Fault → String
  | .unidentified n => "Block " ++ toString n ++ " is missing _type or _key"
  | .noSpans n => "Block " ++ toString n ++ " has no children list"
  | .badSpan n => "Block " ++ toString n ++ " has a malformed span"
  | .unreadable => "Validation raised; treating blocks as invalid"

/-- The log of converting a text. -/
def conversionLog (parse : String → String → Except Markdown.Failure (List Node))
    (preset text : String) (keys : Key.Source) (start : Nat) : List LogLine :=
  (textNotices parse preset text keys).map (⟨.debug, ·.message⟩) ++
    match convertText parse preset text keys start with
    | .ok _ => []
    | .error e => [⟨.error, e.message⟩]

/-- The log of checking blocks. -/
def checkLog (blocks : List Block) : List LogLine :=
  (Shape.faultOf? blocks).toList.map fun f => ⟨.debug, faultText f⟩

/-- The blocks of a source, and the number of keys drawn, from a first key on. -/
def sourceBlocks (plan : Plan) (source : Source) (start : Nat) :
    Except Failure (List Block × Nat) :=
  (convertText plan.readers.markdown plan.settings.parserConfig source.body plan.keys
    start).mapError .conversion

/-- The document of a source, and the number of keys drawn, from a first key on. -/
def sourceDocument (plan : Plan) (source : Source) (start : Nat) :
    Except Failure (Document × Nat) := do
  let (blocks, drawn) ← sourceBlocks plan source start
  if plan.settings.validateOutput && !Shape.fit blocks then .error .unfit
  else match Document.ofSource? source blocks plan.now with
    | some d => return (d, drawn)
    | none => .error .noDocument

/-- The document of the source at a path, and the number of keys drawn, from a first key on. -/
def convertSource (plan : Plan) (disk : Disk) (path : Path) (start : Nat) :
    Except Failure (Document × Nat) := do
  let source ← (Source.read plan.readers.yaml disk path plan.settings.maxFileSize).mapError .source
  sourceDocument plan source start

/-- The log of converting the source at a path. -/
def sourceLog (plan : Plan) (disk : Disk) (path : Path) (start : Nat) : List LogLine :=
  match Source.read plan.readers.yaml disk path plan.settings.maxFileSize with
  | .error _ => []
  | .ok source =>
    conversionLog plan.readers.markdown plan.settings.parserConfig source.body plan.keys start ++
      match sourceBlocks plan source start with
      | .ok (blocks, _) => if plan.settings.validateOutput then checkLog blocks else []
      | .error _ => []

/-- The path of the document with a slug in a folder. -/
def outputPath (folder : Path) (slug : String) : Path := folder.join (.ofText (slug ++ ".json"))

/-- Writes a document into a folder, which is made if it is not there.  Where the document has no
text the folder is made all the same. -/
def writeDocument (folder : Path) (indent : Nat) (d : Document) : Storing (Option Path) := do
  Storing.makeFolders folder
  match d.text? indent with
  | none => return none
  | some text =>
    let path := outputPath folder d.slug
    Storing.write path (Text.utf8 text)
    return some path

/-- What comes of a run. -/
structure Outcome where
  disk : Disk
  /-- The sources that were converted, each with the path of its document. -/
  results : List (Path × Path)
  /-- The source that ended the run, and why. -/
  failure : Option (Path × Failure)
  log : List LogLine

/-- The outcome of converting some sources, after others have drawn keys. -/
def runPaths (plan : Plan) : List Path → Disk → Nat → Outcome
  | [], disk, _ => ⟨disk, [], none, []⟩
  | p :: ps, disk, start =>
    let log := sourceLog plan disk p start
    match convertSource plan disk p start with
    | .error f => ⟨disk, [], some (p, f), log⟩
    | .ok (d, drawn) =>
      let folder := Path.ofText plan.settings.outputDir
      match (writeDocument folder plan.settings.jsonIndent d).run disk with
      | (.error trouble, disk) => ⟨disk, [], some (p, .storage trouble), log⟩
      | (.ok none, disk) => ⟨disk, [], some (p, .unwritable), log⟩
      | (.ok (some out), disk) =>
        let done : LogLine := ⟨.info, "Converted " ++ p.toText ++ " -> " ++ out.toText ++ " (" ++
          toString d.stats.totalBlocks ++ " blocks)"⟩
        let rest := runPaths plan ps disk drawn
        { rest with results := (p, out) :: rest.results, log := log ++ done :: rest.log }

/-- The outcome of converting everything that a path offers. -/
def run (plan : Plan) (disk : Disk) (path : Path) : Except Trouble Outcome :=
  (disk.sources path).map fun paths => runPaths plan paths disk 0

/-- What a message says about the source that ended a run. -/
def failureText (failure : Path × Failure) : String :=
  "Failed to convert " ++ failure.1.toText ++ ": " ++ failure.2.message

end Batch

end ContentBlocks
