import ContentBlocks.Slug
import ContentBlocks.Source.Header
import ContentBlocks.Storage.Disk
import ContentBlocks.Text.Utf8

/-!
# Source files

A Markdown file as it is found: its path, its text, its header and body, its size, and the slug it
asks for in its header or gets from its name.  Headers are read by a reader of YAML, `load`.
-/

namespace ContentBlocks

open Storage (Disk Path Trouble)

/-- A Markdown file. -/
structure Source where
  path : Path
  /-- The slug from the header, which may be any value, or the one from the name. -/
  slug : Yaml.Value
  /-- The whole text. -/
  text : String
  /-- The text without the header. -/
  body : String
  header : Header
  /-- The number of bytes of the file. -/
  size : Nat

namespace Source

/-- Why a file cannot be taken as a source. -/
inductive Failure where
  | storage (trouble : Trouble)
  | tooLarge (size : Nat) (most : Int)
  | notUtf8
  | header (cause : Header.Failure)
  | empty
  deriving DecidableEq

/-- What a message says about a file that cannot be taken. -/
def Failure.message : Failure → String
  | .storage trouble => trouble.message
  | .tooLarge size most =>
    "File too large: " ++ toString size ++ " bytes (max " ++ toString most ++ ")"
  | .notUtf8 => Text.withheld
  | .header cause => cause.message
  | .empty => "File content is empty"

/-- A text whose lines all end in the same character. -/
def unifyBreaks : List Char → List Char
  | [] => []
  | '\r' :: '\n' :: cs => '\n' :: unifyBreaks cs
  | '\r' :: cs => '\n' :: unifyBreaks cs
  | c :: cs => c :: unifyBreaks cs

/-- The text of a file. -/
def textOf (bytes : List UInt8) : Except Failure String :=
  match Text.ofUtf8? bytes with
  | some s => .ok (.ofList (unifyBreaks s.toList))
  | none => .error .notUtf8

/-- The size that a folder is counted with. -/
def folderSize : Nat := 4096

variable (load : String → Except Yaml.Failure Yaml.Value)

/-- A text at a path as a source. -/
def ofText (path : Path) (text : String) (size : Nat) : Except Failure Source :=
  match Header.readWith load text with
  | .error cause => .error (.header cause)
  | .ok (header, body) =>
    if Text.allBlank body.toList then .error .empty
    else
      let asked := (Yaml.Value.field? "slug" header).filter (·.truthy)
      .ok { path, text, body, header, size
            slug := asked.getD (.str (ContentBlocks.slug path.stem)) }

/-- The source at a path, which has `most` bytes at most. -/
def read (disk : Disk) (path : Path) (most : Int) : Except Failure Source :=
  match path.ifTaken (disk.find path) with
  | .error fault => .error (.storage ⟨fault, path⟩)
  | .ok (.folder _) =>
    if most < folderSize then .error (.tooLarge folderSize most)
    else .error (.storage ⟨.isFolder, path⟩)
  | .ok (.file bytes) =>
    if most < bytes.length then .error (.tooLarge bytes.length most)
    else (textOf bytes).bind fun text => ofText load path text bytes.length

end Source

end ContentBlocks
