import ContentBlocks.Block.Encode
import ContentBlocks.Block.Outline
import ContentBlocks.Block.Stats
import ContentBlocks.Digest.Sha256
import ContentBlocks.Json.Printer
import ContentBlocks.Json.Prose
import ContentBlocks.Source.Basic

/-!
# Documents

What is written for one source: where it comes from, its fingerprint, its header, its blocks, and
the outline and the counts derived from them.  A document needs a text for a slug and names for the
keys of its header; and it can be written only if every value of the header has a form in JSON, and
none of its texts is broken.

## Main definitions

* `Document.ofSource?`: the document of a source and its blocks.
* `Document.toJson?`: its JSON, where it has one.
-/

namespace ContentBlocks

/-- The document of one source. -/
structure Document where
  slug : String
  path : String
  /-- The SHA-256 digest of the whole text. -/
  hash : String
  size : Nat
  header : List (String × Yaml.Value)
  convertedAt : String
  blocks : List Block
  headings : List OutlineEntry
  stats : Stats
  /-- Whether the slug or a name of the header is a broken text, of which only the characters are
  kept. -/
  isBroken : Bool

namespace Document

/-- A value taken for a text: a text, or bytes that encode one. -/
def asText? : Yaml.Value → Option String
  | .str s => some s
  | .broken numbers => some (Yaml.charsAmong numbers)
  | .bytes bs => Text.ofUtf8? bs
  | _ => none

/-- Entries with a further one: a name that is there already keeps its place and gets the new
value. -/
def putEntry (name : String) (v : Yaml.Value) :
    List (String × Yaml.Value) → List (String × Yaml.Value)
  | [] => [(name, v)]
  | (n, w) :: rest => if n = name then (n, v) :: rest else (n, w) :: putEntry name v rest

/-- The entries of a header under their names. -/
def namedHeader? (header : Header) : Option (List (String × Yaml.Value)) :=
  let entries := header.mapM fun (k, v) => (asText? k).map fun name => (name, v)
  entries.map fun es => es.foldl (fun put (name, v) => putEntry name v put) []

/-- The document of a source and its blocks, converted at a moment. -/
def ofSource? (source : Source) (blocks : List Block) (now : String) : Option Document := do
  let slug ← asText? source.slug
  let header ← namedHeader? source.header
  return {
    slug, header, blocks
    path := source.path.toText
    hash := Digest.sha256 (Text.utf8 source.text)
    size := source.size
    convertedAt := now
    headings := outline blocks
    stats := ContentBlocks.stats blocks
    isBroken := source.slug.isBroken || source.header.any fun (k, _) => k.isBroken }

/-! ### JSON -/

/-- How a moment is written: with a letter for universal time. -/
def writeMoment (m : Calendar.Moment) : String := m.write "Z"

/-- A key of an inner map as a name. -/
def keyName? : Yaml.Value → Option String
  | .null => some "None"
  | .bool b => some (if b then "true" else "false")
  | .int n => Text.decimal? n
  | .float x => some (Json.proseFloat x)
  | .str s => some s
  | .bytes bs => Text.ofUtf8? bs
  | .date d => some d.write
  | .moment m => some (writeMoment m)
  | _ => none

mutual

/-- A value of a header as JSON.  Broken texts, bytes that are no text and a collection inside
itself have none. -/
def valueJson? : Yaml.Value → Option Json
  | .null => some .null
  | .bool b => some (.bool b)
  | .int n => if Text.isWritable n then some (.int n) else none
  | .float x => some (.float x)
  | .str s => some (.str s)
  | .bytes bs => (Text.ofUtf8? bs).map .str
  | .date d => some (.str d.write)
  | .moment m => some (.str (writeMoment m))
  | .list vs => (itemsJson? vs).map .arr
  | .set vs => (itemsJson? vs).map .arr
  | .map es => (entriesJson? es).map .obj
  | .broken _ => none
  | .enclosing => none

/-- Values of a header as JSON. -/
def itemsJson? : List Yaml.Value → Option (List Json)
  | [] => some []
  | v :: vs => do
    let j ← valueJson? v
    return j :: (← itemsJson? vs)

/-- Entries of a map as fields. -/
def entriesJson? : List (Yaml.Value × Yaml.Value) → Option (List (String × Json))
  | [] => some []
  | (k, v) :: es => do
    let name ← keyName? k
    let j ← valueJson? v
    return (name, j) :: (← entriesJson? es)

end

/-- A document as JSON. -/
def toJson? (d : Document) : Option Json :=
  if d.isBroken then none
  else do
    let header ← d.header.mapM fun (name, v) => (valueJson? v).map (name, ·)
    return .obj
      [("slug", .str d.slug), ("path", .str d.path), ("hash", .str d.hash), ("size", .int d.size),
       ("frontmatter", .obj header), ("converted_at", .str d.convertedAt),
       ("blocks", Block.listToJson d.blocks),
       ("headings", .arr (d.headings.map OutlineEntry.toJson)), ("stats", d.stats.toJson)]

/-- The layout of documents with an indentation, where 0 puts everything on one line. -/
def layout (indent : Nat) : Json.Layout := ⟨if indent = 0 then none else some indent, false⟩

/-- The text of a document. -/
def text? (d : Document) (indent : Nat) : Option String :=
  d.toJson?.map (Json.write (layout indent))

end Document

end ContentBlocks
