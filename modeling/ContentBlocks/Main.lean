import ContentBlocks.Calendar.Basic
import ContentBlocks.Command.Report
import Std.Time.Format

/-!
# The program

The layer between the commands and the system.  Commands are functions on a disk, so what they can
look at is read before one runs, and what it changed is written after it has run.
-/

namespace ContentBlocks.Command

open Storage (Disk Entry Path)

/-- How the program is used. -/
def usage : String := "\n".intercalate
  ["Usage: mdblocks [--log-level LEVEL] COMMAND [OPTIONS] PATH",
   "",
   "Commands:",
   "  convert   Write a JSON document for every Markdown file at a path.",
   "            [--out-dir DIR] [--parser-config NAME] [--no-validate]",
   "  headings  Show the outline of a file.",
   "  stats     Show the counts of blocks of a file.",
   "  check     Check the blocks of a file."]

/-- Whether a command can ask for what is in a file that it finds by its name. -/
def isAskedFor (name : String) : Bool :=
  (Path.ofText name).isMarkdown || Path.ofText name = Settings.configPath

/-- The entries that were found in a folder, with all below them.  Linked folders are not looked
into, and what cannot be read is left out. -/
partial def readEntries (found : Array IO.FS.DirEntry) : IO (List (String × Entry)) :=
  found.toList.filterMapM fun e => do
    try
      let entry : Entry ←
        if (← e.path.symlinkMetadata).type == .dir then
          Entry.folder <$> readEntries (← e.path.readDir)
        else if ← e.path.isDir then pure (.folder [])
        else if isAskedFor e.fileName then
          pure (.file (← IO.FS.readBinFile e.path).toList)
        else pure (.file [])
      return some (e.fileName, entry)
    catch _ => return none

/-- The disk with what a word of the command line leads to. -/
def readWord (disk : Disk) (word : String) : IO Disk := do
  try
    let real ← IO.FS.realPath word
    let entry : Entry ←
      if ← real.isDir then Entry.folder <$> readEntries (← real.readDir)
      else pure (.file (← IO.FS.readBinFile real).toList)
    return { disk with root := disk.root.putAt (Path.ofText real.toString).parts entry }
  catch _ => return disk

/-- The disk as far as a command line can ask for it: the working folder, and what its words lead
to. -/
def readDisk (words : List String) : IO Disk := do
  let folder ← IO.currentDir
  let place := (Path.ofText folder.toString).parts
  let root := (Entry.folder []).putAt place (.folder (← readEntries (← folder.readDir)))
  words.foldlM readWord ⟨root, place⟩

/-- Makes the folders and writes the files that one disk has and another one lacks. -/
def writeChanges (before after : Disk) : IO Unit :=
  after.root.places.forM fun place => do
    let path := "/" ++ "/".intercalate place
    match after.root.at? place with
    | some (.folder _) =>
      if (before.root.at? place).isNone then IO.FS.createDirAll path
    | some (.file bytes) =>
      if (before.root.at? place).bind Entry.bytes? ≠ some bytes then
        IO.FS.writeBinFile path ⟨bytes.toArray⟩
    | none => return

/-- The variables of the environment that settings are taken from. -/
def readEnvironment : IO Settings.Environment :=
  Settings.fieldNames.filterMapM fun field => do
    let name := Settings.variableName field
    return (← IO.getEnv name).map (name, ·)

/-- The present moment by the local clock. -/
def readClock : IO String := do
  let t ← Std.Time.PlainDateTime.now
  let date : Calendar.Date :=
    ⟨t.date.year.toInt.toNat, t.date.month.val.toNat, t.date.day.val.toNat⟩
  let moment : Calendar.Moment :=
    ⟨date, t.time.hour.val.toNat, t.time.minute.val.toNat, t.time.second.val.toNat,
      t.time.nanosecond.val.toNat / 1000, none⟩
  return moment.write ""

/-- Keys from a place that cannot be foretold. -/
def readKeys : IO Key.Source := do
  let bytes ← IO.getRandomBytes 16
  return .random (bytes.toList.foldl (fun n b => 256 * n + b.toNat) 0)

/-- What is said about a cause that ends the program as it is. -/
def Escape.message : Escape → String
  | .settings cause => cause.message
  | .source cause => cause.message
  | .storage trouble => trouble.message

/-- Runs the command that some words ask for, and returns the code that the program ends with. -/
def perform (words : List String) : IO UInt32 := do
  let disk ← readDisk words
  let world : World := ⟨.standard, disk, ← readEnvironment, ← readKeys, ← readClock⟩
  let report := Report.ofWords world words
  writeChanges disk report.disk
  report.output.forM IO.println
  report.errors.forM IO.eprintln
  match report.ending with
  | .misused =>
    IO.eprintln usage
    return 2
  | .help =>
    IO.println usage
    return 0
  | .exit code => return code.toUInt32
  | .escape cause =>
    IO.eprintln cause.message
    return 1

end ContentBlocks.Command

/-- Runs the command that the command line asks for. -/
def main (words : List String) : IO UInt32 := ContentBlocks.Command.perform words
