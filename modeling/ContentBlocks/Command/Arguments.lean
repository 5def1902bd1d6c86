/-!
# Command lines

The words of a command line are options, their values, and the rest.  Options have long names only;
a value follows its option or stands behind an equality sign.  Options of the whole program come
before the name of the command, those of a command anywhere behind it, and after two hyphens every
word is taken as it is.

## Main definitions

* `readOptions?`: the options of a command line and its other words.
* `Invocation.ofWords`: the command that is asked for, with the words left for it.
* `Action.ofWords`: what a command is to do.
-/

namespace ContentBlocks.Command

/-- The options that are known at some point. -/
structure OptionNames where
  /-- Those that take a value. -/
  valued : List String
  /-- Those that do not. -/
  flags : List String

/-- An option as it was given. -/
structure Given where
  name : String
  value : Option String

/-- The option that asks for help. -/
def helpName : String := "--help"

/-- A word cut at its first equality sign. -/
def cutAtEquals (word : String) : String × Option String :=
  let cs := word.toList
  match cs.dropWhile (· ≠ '=') with
  | [] => (word, none)
  | _ :: value => (.ofList (cs.takeWhile (· ≠ '=')), some (.ofList value))

/-- Whether a word is written like an option. -/
def isOption (word : String) : Bool := word.toList.head? = some '-' && word ≠ "-"

/-- The options among some words and the other words.  With `mixed` options may come after other
words; else the first other word ends them.  There are none where an option is unknown, lacks its
value or has one that it does not take. -/
def readOptions? (known : OptionNames) (mixed : Bool) :
    List String → Option (List Given × List String)
  | [] => some ([], [])
  | "--" :: rest => some ([], rest)
  | word :: rest =>
    if isOption word then
      let (name, value) := cutAtEquals word
      if known.valued.contains name then
        match value, rest with
        | some v, rest =>
          (readOptions? known mixed rest).map fun (os, ws) => (⟨name, some v⟩ :: os, ws)
        | none, v :: rest =>
          (readOptions? known mixed rest).map fun (os, ws) => (⟨name, some v⟩ :: os, ws)
        | none, [] => none
      else if known.flags.contains name && value.isNone then
        (readOptions? known mixed rest).map fun (os, ws) => (⟨name, none⟩ :: os, ws)
      else none
    else if mixed then (readOptions? known mixed rest).map fun (os, ws) => (os, word :: ws)
    else some ([], word :: rest)

/-- The last value that an option was given. -/
def lastValue? (name : String) (given : List Given) : Option String :=
  ((given.filter (·.name = name)).getLast?).bind (·.value)

/-- Whether an option was given. -/
def isGiven (name : String) (given : List Given) : Bool := given.any (·.name = name)

/-- What words are taken for. -/
inductive Taken (α : Type) where
  | asked (a : α)
  | help
  /-- The words do not fit. -/
  | misused

/-- The commands. -/
inductive Name where
  | convert
  | headings
  | stats
  | check
  deriving DecidableEq

/-- The command with a name. -/
def Name.ofText? : String → Option Name
  | "convert" => some .convert
  | "headings" => some .headings
  | "stats" => some .stats
  | "check" => some .check
  | _ => none

/-- A command, the level of the log if one was given, and the words left for the command. -/
structure Invocation where
  logLevel : Option String
  name : Name
  words : List String

/-- The command that words ask for. -/
def Invocation.ofWords (words : List String) : Taken Invocation :=
  match readOptions? ⟨["--log-level"], [helpName]⟩ false words with
  | none => .misused
  | some (given, rest) =>
    if isGiven helpName given then .help
    else match rest with
      | [] => .misused
      | first :: rest =>
        match Name.ofText? first with
        | some name => .asked ⟨lastValue? "--log-level" given, name, rest⟩
        | none => .misused

/-- What a command is to do.  Paths are kept as they were written. -/
inductive Action where
  | convert (path : String) (outDir parserConfig : Option String) (noValidate : Bool)
  | headings (path : String)
  | stats (path : String)
  | check (path : String)
  deriving DecidableEq

/-- The options of a command. -/
def Name.options : Name → OptionNames
  | .convert => ⟨["--out-dir", "--parser-config"], ["--no-validate", helpName]⟩
  | _ => ⟨[], [helpName]⟩

/-- What a command is to do with a path and its options. -/
def Name.action (name : Name) (path : String) (given : List Given) : Action :=
  match name with
  | .convert =>
    .convert path (lastValue? "--out-dir" given) (lastValue? "--parser-config" given)
      (isGiven "--no-validate" given)
  | .headings => .headings path
  | .stats => .stats path
  | .check => .check path

/-- What a command is asked to do by the words left for it: one of them is a path, the others are
options. -/
def Action.ofWords (name : Name) (words : List String) : Taken Action :=
  match readOptions? name.options true words with
  | none => .misused
  | some (given, rest) =>
    if isGiven helpName given then .help
    else match rest with
      | [path] => .asked (name.action path given)
      | _ => .misused

end ContentBlocks.Command
