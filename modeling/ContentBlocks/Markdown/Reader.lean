import ContentBlocks.Markdown.Block
import ContentBlocks.Markdown.Inline

/-!
# Reading Markdown

The syntax tree of a text: first its blocks and link definitions, then the text in the blocks.
-/

namespace ContentBlocks.Markdown

/-- A text with plain line ends and without null characters. -/
def normalizeText : List Char → List Char
  | [] => []
  | '\r' :: '\n' :: cs => '\n' :: normalizeText cs
  | c :: cs =>
    (if c = '\r' then '\n' else if c = '\x00' then '\uFFFD' else c) :: normalizeText cs

mutual

/-- A node with the text read in all containers beneath it. -/
def fill (preset : Preset) (definitions : List Definition) : Node → Node
  | ⟨kind, tag, content, info, attrs, children⟩ =>
    if kind = .container then
      ⟨kind, tag, content, info, attrs, readInline preset definitions content.toList⟩
    else ⟨kind, tag, content, info, attrs, fillAll preset definitions children⟩

/-- `fill` on nodes in a row. -/
def fillAll (preset : Preset) (definitions : List Definition) : List Node → List Node
  | [] => []
  | n :: ns => fill preset definitions n :: fillAll preset definitions ns

end

/-- The nodes at the top of a text, in a dialect given by its name. -/
def read (presetName text : String) : Except Failure (List Node) :=
  match Preset.ofName? presetName with
  | none => .error (.unknownPreset presetName)
  | some preset => do
    let blocks ← readBlocks preset (normalizeText text.toList)
    return fillAll preset blocks.definitions blocks.nodes

end ContentBlocks.Markdown
