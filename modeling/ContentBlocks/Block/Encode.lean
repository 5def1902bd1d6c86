import ContentBlocks.Block.Basic
import ContentBlocks.Json.Value

/-!
# Blocks as JSON

A block has two forms as JSON. In its serialised form optional parts that are absent have no field;
in its full form they are null. Empty lists and empty texts have a field in both. The forms differ
only in how an object is made of its fields.

## Main definitions

* `Block.encode`: a block as JSON, with a given way to make objects
* `Block.toJson`, `Block.toFullJson`: the serialised form and the full form
-/

namespace ContentBlocks

/-- A span as JSON. It has no optional parts. -/
def Span.toJson (s : Span) : Json :=
  .obj
    [("_key", .str s.key), ("_type", .str "span"), ("text", .str s.text),
     ("marks", .arr (s.marks.map fun m => .str m.name))]

section Encode

variable (object : List (String × Option Json) → Json)

/-- A text block as JSON. -/
def TextBlock.encode (b : TextBlock) : Json :=
  object
    [("_key", some (.str b.key)), ("_type", some (.str "block")),
     ("style", some (.str b.style.name)), ("level", b.level.map fun l => .int l.val),
     ("listItem", b.listItem.map fun k => .str k.name),
     ("children", some (.arr (b.children.map Span.toJson)))]

/-- A code block as JSON. -/
def CodeBlock.encode (b : CodeBlock) : Json :=
  object
    [("_key", some (.str b.key)), ("_type", some (.str "codeBlock")),
     ("language", b.language.map Json.str), ("filename", b.filename.map Json.str),
     ("code", some (.str b.code))]

/-- A highlight as JSON. -/
def HighlightBlock.encode (b : HighlightBlock) : Json :=
  object
    [("_key", some (.str b.key)), ("_type", some (.str "highlightBlock")),
     ("kind", some (.str b.kind.name)), ("title", b.title.map Json.str),
     ("content", some (.arr (b.content.map (TextBlock.encode object))))]

/-- An image as JSON. -/
def ImageBlock.encode (b : ImageBlock) : Json :=
  object
    [("_key", some (.str b.key)), ("_type", some (.str "image")),
     ("assetRef", some (.str b.assetRef)), ("alt", b.alt.map Json.str),
     ("caption", b.caption.map Json.str)]

/-- A table cell as JSON. -/
def TableCell.encode (c : TableCell) : Json :=
  object
    [("_key", some (.str c.key)), ("_type", some (.str "tableCell")),
     ("content", some (.arr (c.content.map (TextBlock.encode object))))]

/-- A table row as JSON. -/
def TableRow.encode (r : TableRow) : Json :=
  object
    [("_key", some (.str r.key)), ("_type", some (.str "tableRow")),
     ("cells", some (.arr (r.cells.map (TableCell.encode object))))]

/-- A table as JSON. -/
def TableBlock.encode (b : TableBlock) : Json :=
  object
    [("_key", some (.str b.key)), ("_type", some (.str "table")),
     ("rows", some (.arr (b.rows.map (TableRow.encode object))))]

/-- A block as JSON. -/
def Block.encode : Block → Json
  | .text b => b.encode object
  | .code b => b.encode object
  | .highlight b => b.encode object
  | .image b => b.encode object
  | .table b => b.encode object
  | .separator key => object [("_key", some (.str key)), ("_type", some (.str "separator"))]

end Encode

/-- The serialised form of a text block. -/
def TextBlock.toJson (b : TextBlock) : Json := b.encode .ofFields

/-- The serialised form of a code block. -/
def CodeBlock.toJson (b : CodeBlock) : Json := b.encode .ofFields

/-- The serialised form of a highlight. -/
def HighlightBlock.toJson (b : HighlightBlock) : Json := b.encode .ofFields

/-- The serialised form of an image. -/
def ImageBlock.toJson (b : ImageBlock) : Json := b.encode .ofFields

/-- The serialised form of a table. -/
def TableBlock.toJson (b : TableBlock) : Json := b.encode .ofFields

/-- The serialised form of a block. -/
def Block.toJson (b : Block) : Json := b.encode .ofFields

/-- The full form of a block. -/
def Block.toFullJson (b : Block) : Json := b.encode .ofAllFields

/-- Blocks as a JSON array. -/
def Block.listToJson (bs : List Block) : Json := .arr (bs.map Block.toJson)

end ContentBlocks
