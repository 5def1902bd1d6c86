import ContentBlocks.Block.Basic
import ContentBlocks.Json.Value
import ContentBlocks.Slug

/-!
# The outline of a document

One entry for every heading, in order: its text without marks, its level, and the anchor of the
text.
-/

namespace ContentBlocks

/-- One line of an outline. -/
structure OutlineEntry where
  id : String
  text : String
  level : Level
  deriving DecidableEq

/-- The text of a block without its marks. -/
def TextBlock.plainText (b : TextBlock) : String := String.join (b.children.map (·.text))

/-- The outline entry of a block; only a text block with a heading style and a level has one. -/
def Block.outlineEntry? : Block → Option OutlineEntry
  | .text b =>
    if b.style.isHeading then
      b.level.map fun level => ⟨anchor b.plainText, b.plainText, level⟩
    else none
  | _ => none

/-- The outline of a list of blocks. -/
def outline (bs : List Block) : List OutlineEntry := bs.filterMap Block.outlineEntry?

/-- An outline entry as JSON. -/
def OutlineEntry.toJson (e : OutlineEntry) : Json :=
  .obj [("id", .str e.id), ("text", .str e.text), ("level", .int e.level.val)]

/-- An outline entry as a line of text, indented by its level. -/
def OutlineEntry.line (e : OutlineEntry) : String :=
  String.ofList (List.replicate (2 * (e.level.val - 1)) ' ') ++ e.text ++ " (#" ++ e.id ++ ")"

end ContentBlocks
