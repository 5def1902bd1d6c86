import ContentBlocks.Conversion.FenceInfo
import ContentBlocks.Conversion.Highlight
import ContentBlocks.Conversion.Inline
import ContentBlocks.Json.Prose
import ContentBlocks.Text.Numeral

/-!
# From block nodes to blocks

One block for every node at the top of a tree, except that a list gives one for each of its items.
A key is drawn where the thing it belongs to is begun, so that a text block has its key before its
spans; only a table draws its own key after those of its rows, and a paragraph in a cell after those
of its spans.  The spans of a cell are the one thing that is made inside of an iterator.

## Main definitions

* `Node.toBlocks`: the blocks of one node.
* `convert`: the blocks of a document.
-/

namespace ContentBlocks

open Conversion Schema

namespace Conversion

/-- Whether a node beside an image in a paragraph may be passed over. -/
def isFiller (n : Node) : Bool :=
  match n.kind with
  | .softBreak => true
  | .hardBreak => true
  | .text => Text.allBlank n.content.toList
  | _ => false

/-- The image that is all there is in a container. -/
def loneImage? : Option Node → Option Node
  | none => none
  | some container =>
    match container.children.filter (!isFiller ·) with
    | [n] => if n.kind = .image then some n else none
    | _ => none

/-- The spans of the paragraphs among some nodes; what is no paragraph is passed over. -/
def paragraphSpans : List Node → Keyed (List Span)
  | [] => return []
  | n :: ns => do
    if n.kind = .paragraph then
      return (← containerSpans n.container?) ++ (← paragraphSpans ns)
    else paragraphSpans ns

/-- The number that a heading's tag ends in, after its first letter. -/
def tagNumber? (n : Node) : Option Int := Text.integer? (n.tag.toList.drop 1)

/-- The level that a number is, or the issues of a heading with that number: there is no such style,
and the level is too small or too large. -/
def levelOf (depth : Int) : Checked Level :=
  match Level.ofNat? depth.toNat with
  | some level => .ok level
  | none =>
    .error
      [⟨[.field "style"], .notListed⟩,
       ⟨[.field "level"], if depth < 1 then .tooSmall else .tooLarge⟩]

/-- A check whose issues end the conversion. -/
def require {α : Type} : Checked α → Keyed α
  | .ok a => return a
  | .error issues => fail (.invalid issues)

/-- The block of a heading. -/
def heading (n : Node) : Keyed TextBlock :=
  match tagNumber? n with
  | none => fail .unreadableLevel
  | some depth => do
    let key ← draw
    let spans ← containerSpans n.container?
    let level ← require (levelOf depth)
    return ⟨key, .heading level, some level, none, spans⟩

/-- The caption of an image: its title, which has to be a text if it is anything. -/
def caption (n : Node) : Checked (Option String) :=
  match n.attrs.lookup "title" with
  | some (.str s) => .ok (if s.isEmpty then none else some s)
  | some v => if v.truthy then .error [⟨[.field "caption"], .notText⟩] else .ok none
  | none => .ok none

/-- The address of an image: its source in running text, if that can be written. -/
def address? (n : Node) : Option String :=
  match n.attrs.lookup "src" with
  | some v => v.prose?
  | none => some ""

/-- The block of an image. -/
def image (n : Node) : Keyed ImageBlock := do
  let key ← draw
  match address? n with
  | none => fail .unwritableAddress
  | some address =>
    let caption ← require (caption n)
    let alt := if n.content.isEmpty then none else some n.content
    return ⟨key, address, alt, caption⟩

/-- The block of a paragraph. -/
def paragraph (n : Node) : Keyed Block :=
  match loneImage? n.container? with
  | some i => return .image (← image i)
  | none => return .text ⟨← draw, .normal, none, none, ← containerSpans n.container?⟩

/-- Code without the line end that closes it. -/
def codeText (content : String) : String :=
  match content.toList.reverse with
  | '\n' :: rest => .ofList rest.reverse
  | _ => content

/-- The block of a fence or of indented code; only a fence has an info line. -/
def code (n : Node) : Keyed CodeBlock := do
  let info := FenceInfo.of (if n.kind = .fence then n.info else "")
  return ⟨← draw, info.language, info.filename, codeText n.content⟩

/-- The block of a quotation. -/
def blockquote (n : Node) : Keyed TextBlock :=
  return ⟨← draw, .blockquote, none, none, ← paragraphSpans n.children⟩

/-- The highlight that a quotation is, if it has a trigger.  The trigger line stays in the
content. -/
def highlight? (n : Node) : Keyed (Option HighlightBlock) :=
  match Trigger.of? n with
  | none => return none
  | some trigger => do
    let key ← draw
    let content ← blockquote n
    match trigger.kind? with
    | some kind => return some ⟨key, kind, trigger.title, [content]⟩
    | none => fail (.invalid [⟨[.field "kind"], .notListed⟩])

/-- The block of a list item. -/
def listItem (kind : ListKind) (item : Node) : Keyed TextBlock :=
  return ⟨← draw, .normal, none, some kind, ← paragraphSpans item.children⟩

/-- The blocks of the items of a list. -/
def listItems (kind : ListKind) : List Node → Keyed (List TextBlock)
  | [] => return []
  | item :: rest => return (← listItem kind item) :: (← listItems kind rest)

/-- The paragraphs of a cell: one for each node that has spans. -/
def cellContent : List Node → Keyed (List TextBlock)
  | [] => return []
  | n :: ns => do
    let spans ← iterated n.spans
    if spans.isEmpty then cellContent ns
    else
      let key ← draw
      return ⟨key, .normal, none, none, spans⟩ :: (← cellContent ns)

/-- The blocks of a list; one that is not ordered is a bullet list. -/
def list (n : Node) : Keyed (List TextBlock) :=
  listItems (if n.kind = .orderedList then .number else .bullet) n.children

/-- The nodes of the text that a container holds. -/
def containerNodes : Option Node → List Node
  | some container => container.children
  | none => []

/-- A cell of a table. -/
def tableCell (cell : Node) : Keyed TableCell :=
  return ⟨← draw, ← cellContent (containerNodes cell.container?)⟩

/-- The cells of a row. -/
def tableCells : List Node → Keyed (List TableCell)
  | [] => return []
  | cell :: rest => return (← tableCell cell) :: (← tableCells rest)

/-- A row of a table. -/
def tableRow (row : Node) : Keyed TableRow := return ⟨← draw, ← tableCells row.children⟩

/-- Rows of a table. -/
def tableRows : List Node → Keyed (List TableRow)
  | [] => return []
  | row :: rest => return (← tableRow row) :: (← tableRows rest)

/-- The rows of a table: those of its sections, one after the other. -/
def rowNodes (table : Node) : List Node := table.children.flatMap (·.children)

/-- The block of a table. -/
def table (n : Node) : Keyed TableBlock := do
  let rows ← tableRows (rowNodes n)
  return ⟨← draw, rows⟩

/-- The block of a thematic break. -/
def separator : Keyed Block := return .separator (← draw)

/-- What stands for a node of an unknown kind. -/
def placeholder : Keyed TextBlock := do
  let key ← draw
  return ⟨key, .normal, none, none, [⟨← draw, "", []⟩]⟩

end Conversion

open Conversion in
/-- The blocks of a node. -/
def Node.toBlocks (n : Node) : Keyed (List Block) :=
  match n.kind with
  | .heading => return [.text (← heading n)]
  | .paragraph => return [← paragraph n]
  | .fence => return [.code (← code n)]
  | .indentedCode => return [.code (← code n)]
  | .blockquote => do
    match ← highlight? n with
    | some b => return [.highlight b]
    | none => return [.text (← blockquote n)]
  | .bulletList => return (← list n).map .text
  | .orderedList => return (← list n).map .text
  | .table => return [.table (← table n)]
  | .thematicBreak => return [← separator]
  | _ => return [.text (← placeholder)]

/-- The blocks of the nodes at the top of a document, in order. -/
def convert : List Node → Keyed (List Block)
  | [] => return []
  | n :: ns => return (← n.toBlocks) ++ (← convert ns)

end ContentBlocks
