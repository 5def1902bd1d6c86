import ContentBlocks.Yaml.Reader

/-!
# Headers

A Markdown file may begin with a header in YAML between two fences, lines of three hyphens and
blanks.  `Header.split` cuts a text into header and body; `Header.readWith load` reads the header,
which must be a mapping unless it says nothing, by any reader of YAML.

## Main definitions

* `Header.split`: the header and the body of a text that has a header.
* `Header.readWith load`: the entries of the header, and the body.
-/

namespace ContentBlocks

/-- The entries of a header. -/
abbrev Header := List (Yaml.Value × Yaml.Value)

namespace Header

/-- What follows the last line end among the blanks at the start of a text. -/
def afterBreak? : List Char → Option (List Char)
  | [] => none
  | c :: cs =>
    if Text.isBlank c then afterBreak? cs <|> (if c = '\n' then some cs else none) else none

/-- The mark of a fence. -/
def mark : List Char := ['-', '-', '-']

/-- A text cut at its first fence that follows a line end: what stands before that line end, and
what stands after the fence. -/
def cut? : List Char → Option (List Char × List Char)
  | [] => none
  | c :: cs =>
    match if c = '\n' then (Text.after? mark cs).bind afterBreak? else none with
    | some body => some ([], body)
    | none => (cut? cs).map fun (header, body) => (c :: header, body)

/-- The header and the body of the text after the mark of the first fence.  The header begins after
the last line end among the blanks from which on it has an end. -/
def opened? : List Char → Option (List Char × List Char)
  | [] => none
  | c :: cs =>
    if Text.isBlank c then opened? cs <|> (if c = '\n' then cut? cs else none) else none

/-- The header and the body of a text that has a header. -/
def split (cs : List Char) : Option (List Char × List Char) := (Text.after? mark cs).bind opened?

/-- Why a header cannot be read. -/
inductive Failure where
  | yaml (cause : Yaml.Failure)
  /-- The header is a value other than a mapping. -/
  | notMapping (kind : String)
  deriving DecidableEq

/-- What a message says about a header that cannot be read. -/
def Failure.message : Failure → String
  | .yaml .malformed => "Invalid YAML frontmatter: " ++ Text.withheld
  | .yaml cause => cause.message?.getD Text.withheld
  | .notMapping kind => "Invalid YAML frontmatter: expected a mapping, got " ++ kind

/-- The entries of a header from the value of its text; a value that counts as false is an empty
header. -/
def ofValue (v : Yaml.Value) : Except Failure Header :=
  if !v.truthy then .ok []
  else match v with
    | .map entries => .ok entries
    | v => .error (.notMapping v.kindName)

/-- The header of a text and its body, by a reader of YAML.  A text without a header is its own
body. -/
def readWith (load : String → Except Yaml.Failure Yaml.Value) (text : String) :
    Except Failure (Header × String) :=
  match split text.toList with
  | none => .ok ([], text)
  | some (header, body) =>
    match load (.ofList header) with
    | .error cause => .error (.yaml cause)
    | .ok v => (ofValue v).map (·, .ofList body)

/-- The header of a text and its body. -/
def read : String → Except Failure (Header × String) := readWith Yaml.read

end Header

end ContentBlocks
