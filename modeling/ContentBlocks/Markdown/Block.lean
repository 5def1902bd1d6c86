import ContentBlocks.Markdown.Definition
import ContentBlocks.Markdown.Mark
import ContentBlocks.Markup.Node

/-!
# The blocks of a text

Lines are read from the first one on: what a line begins with decides which block it opens, and how
many lines belong to it.  The lines of a quotation or of a list item are read in the same way,
without what the container takes off them.  Nesting is bounded: what is nested deeper than the
dialect allows is passed over, so that reading is a recursion on the depth that is left.

Text is not looked into here.  It stands in the content of container nodes, and link definitions are
collected on the way, because any of them may be referred to anywhere.

## Main definitions

* `Blocks`: blocks that were read, with the number of lines they take.
* `readBlocks`: the blocks of some lines.
-/

namespace ContentBlocks.Markdown

open Text

/-- Why a text cannot be read. -/
inductive Failure where
  /-- There is no such dialect. -/
  | unknownPreset (name : String)
  /-- The rows of a quoted table reach a line without a single character. -/
  | endlessTable
  deriving DecidableEq

/-- Blocks that were read. -/
structure Blocks where
  nodes : List Node
  definitions : List Definition
  /-- How many lines they take. -/
  used : Nat

/-- One node that takes some lines. -/
def Blocks.one (used : Nat) (n : Node) : Blocks := ⟨[n], [], used⟩

/-- Blocks and those after them. -/
def Blocks.append (a b : Blocks) : Blocks :=
  ⟨a.nodes ++ b.nodes, a.definitions ++ b.definitions, a.used + b.used⟩

/-- A reader of blocks for the lines in a container. -/
abbrev BlockReader := Frame → List Line → Except Failure Blocks

/-- The node that holds some text. -/
def textNode (content : List Char) : Node := .plain .container (.ofList content) []

/-! ### Leaves -/

/-- Whether text goes on with a line: the line has content, and begins nothing that may
interrupt. -/
def goesOn (f : Frame) (what : Interrupted) (l : Line) (ls : List Line) : Bool :=
  !l.isEmpty &&
    (l.indent - f.indent > 3 || l.indent < 0 || !interrupts f what (l :: ls))

/-- The lines, counted, by which a paragraph goes on. -/
def continuation (f : Frame) (what : Interrupted) : List Line → Nat
  | [] => 0
  | l :: ls => if goesOn f what l ls then continuation f what ls + 1 else 0

/-- The level of the heading that a line underlines. -/
def underlineLevel? (f : Frame) (l : Line) : Option Nat :=
  if l.isEmpty || l.indent - f.indent > 3 || f.isOutside l then none else underline? l.body

/-- The number of lines between the first line of a heading and its underline, and the level. -/
def underlined? (f : Frame) : List Line → Option (Nat × Nat)
  | [] => none
  | l :: ls =>
    match underlineLevel? f l with
    | some level => some (0, level)
    | none =>
      if goesOn f .paragraph l ls then
        (underlined? f ls).map fun (n, level) => (n + 1, level)
      else none

/-- The number of lines of code after its first one; blank lines count if code follows them. -/
def codeLines (f : Frame) : List Line → Nat
  | [] => 0
  | l :: ls =>
    if l.isEmpty then
      let further := codeLines f ls
      if further = 0 then 0 else further + 1
    else if f.isCode l then codeLines f ls + 1
    else 0

/-- The lines, counted, up to the one that closes a fence, and whether there is one. -/
def fencedLines (f : Frame) (fence : Fence) : List Line → Nat × Bool
  | [] => (0, false)
  | l :: ls =>
    if (l.isEmpty && l.unended) || (!l.isEmpty && f.isOutside l) then (0, false)
    else if !f.isCode l && fence.closedBy l.body then (0, true)
    else
      let (n, closed) := fencedLines f fence ls
      (n + 1, closed)

/-- The lines, counted, of a block of HTML after its first one. -/
def htmlLines (f : Frame) (o : Html.Opening) : List Line → Nat
  | [] => 0
  | l :: ls =>
    if f.isOutside l then 0
    else if o.closedBy l.body then if l.body.isEmpty then 0 else 1
    else htmlLines f o ls + 1

/-- A heading. -/
def headingNode (level : Nat) (content : List Char) : Node :=
  ⟨.heading, "h" ++ toString level, "", "", [], [textNode content]⟩

/-- A paragraph. -/
def paragraphNode (content : List Char) : Node :=
  ⟨.paragraph, "p", "", "", [], [textNode content]⟩

/-! ### Tables -/

/-- A row with a given number of cells; missing ones are empty and further ones are dropped. -/
def rowNode (cellKind : String) (columns : Nat) (cells : List (List Char)) : Node :=
  .plain (.other "tr") ""
    ((List.range columns).map fun i =>
      .plain (.other cellKind) "" [textNode (strip (cells.getD i []))])

/-- The rows after the head. -/
def bodyRows (f : Frame) (columns : Nat) : List Line → Except Failure (List Node)
  | [] => .ok []
  | l :: ls =>
    if f.isOutside l then .ok []
    else if l.isEmpty && l.unended && !f.isCode l then .error .endlessTable
    else
      let line := strip l.body
      if interrupts f .quotation (l :: ls) || line.isEmpty || f.isCode l then .ok []
      else (bodyRows f columns ls).map (rowNode "td" columns (rowCells line) :: ·)

/-- A table. -/
def readTable (f : Frame) (head : List (List Char)) (below : List Line) :
    Except Failure Blocks := do
  let rows ← bodyRows f head.length below
  let headNode := Node.plain (.other "thead") "" [rowNode "th" head.length head]
  let bodyNode := Node.plain (.other "tbody") "" rows
  return Blocks.one (2 + rows.length)
    ⟨.table, "table", "", "", [], if rows.isEmpty then [headNode] else [headNode, bodyNode]⟩

/-! ### Containers -/

/-- The lines of a quotation after its first one.  A paragraph goes on without marks, unless the
line before was empty or something else begins. -/
def quotedLines (f : Frame) : Bool → List Line → List Line
  | _, [] => []
  | afterEmpty, l :: ls =>
    if l.isEmpty then []
    else if l.body.head? = some '>' && !f.isOutside l then
      unquote l :: quotedLines f (unquote l).isEmpty ls
    else if afterEmpty || interrupts f .quotation (l :: ls) then []
    else { l with indent := -1 } :: quotedLines f afterEmpty ls

/-- A quotation. -/
def readQuotation (inner : BlockReader) (f : Frame) (l : Line) (ls : List Line) :
    Except Failure Blocks := do
  let first := unquote l
  let content ← inner { f with indent := 0 } (first :: quotedLines f first.isEmpty ls)
  return { content with nodes := [⟨.blockquote, "blockquote", "", "", [], content.nodes⟩] }

/-- A list item: its content, and the lines it takes. -/
def readItem (inner : BlockReader) (f : Frame) (mark : ItemMark) (l : Line) (ls : List Line) :
    Except Failure Blocks := do
  let start := l.indent.toNat + mark.length
  let rest := l.body.drop mark.length
  let (n, column) := measure l.base start rest
  let empty := n = rest.length
  let gap := if empty || column - start > 4 then 1 else column - start
  if empty && (ls.head?.map Line.isEmpty).getD true then
    return ⟨[⟨.listItem, "li", "", "", [], []⟩], [], min 2 (ls.length + 1)⟩
  else
    let first := { l with shift := l.shift + mark.length + n, indent := column }
    let content ← inner { f with indent := start + gap, outer := some f.indent } (first :: ls)
    return { content with nodes := [⟨.listItem, "li", "", "", [], content.nodes⟩] }

/-- The items of a list.  The first argument bounds their number. -/
def readItems (inner : BlockReader) (f : Frame) : Nat → ItemMark → Line → List Line →
    Except Failure Blocks
  | 0, _, _, _ => .ok ⟨[], [], 0⟩
  | fuel + 1, mark, l, ls => do
    let item ← readItem inner f mark l ls
    match (l :: ls).drop item.used with
    | [] => return item
    | next :: rest =>
      if f.isOutside next || f.isCode next || interrupts f .list (next :: rest) then return item
      else match itemMark? next.body with
        | none => return item
        | some mark' =>
          if mark.sameList mark' then
            let more ← readItems inner f fuel mark' next rest
            return item.append more
          else return item

/-- A list. -/
def readList (inner : BlockReader) (f : Frame) (mark : ItemMark) (l : Line) (ls : List Line) :
    Except Failure Blocks := do
  let items ← readItems inner f (ls.length + 1) mark l ls
  let node : Node :=
    if mark.number.isSome then ⟨.orderedList, "ol", "", "", [], items.nodes⟩
    else ⟨.bulletList, "ul", "", "", [], items.nodes⟩
  return { items with nodes := [node] }

/-! ### All together -/

/-- A definition, with the number of lines it takes. -/
def readDefinition? (f : Frame) (l : Line) (ls : List Line) : Option Blocks :=
  match l.body with
  | '[' :: rest =>
    if Definition.mayOpen '[' rest then
      let more := ls.take (continuation f .definition ls)
      (Definition.ofText? (strip (joinLines f.indent (l :: more)))).map fun (d, ends) =>
        ⟨[], [d], ends + 1⟩
    else none
  | _ => none

/-- A heading with an underline, or a paragraph. -/
def readText (f : Frame) (l : Line) (ls : List Line) : Blocks :=
  match (if f.preset.markup && !f.isCode l then underlined? f ls else none) with
  | some (n, level) =>
    .one (n + 2) (headingNode level (strip (joinLines f.indent (l :: ls.take n))))
  | none =>
    let n := continuation f .paragraph ls
    .one (n + 1) (paragraphNode (strip (joinLines f.indent (l :: ls.take n))))

/-- A leaf that its first line alone announces. -/
def readLeaf? (f : Frame) (l : Line) (ls : List Line) : Option Blocks :=
  let body := l.body
  if let some d := readDefinition? f l ls then some d
  else if let some o := htmlOpening? f l then
    let n := if o.closedBy body then 0 else htmlLines f o ls
    let content := endedLines f.indent (l :: ls.take n)
    some (.one (n + 1) (.plain (.other "html_block") (.ofList content) []))
  else (heading? body).map fun (level, content) => .one 1 (headingNode level content)

/-- The block that a line opens.  The readers are those for the lines of quotations and of list
items. -/
def readBlock (quotation item : BlockReader) (f : Frame) (l : Line) (ls : List Line) :
    Except Failure Blocks :=
  let body := l.body
  let head? := match ls with
    | second :: _ => if f.preset.tables then tableHead? f l second else none
    | [] => none
  if !f.preset.markup then .ok (readText f l ls)
  else if let some head := head? then readTable f head (ls.drop 1)
  else if f.isCode l then
    let n := codeLines f ls
    .ok (.one (n + 1)
      (.plain .indentedCode (.ofList (joinLines (4 + f.indent) (l :: ls.take n) ++ ['\n'])) []))
  else if let some fence := fence? body then
    let (n, closed) := fencedLines f fence ls
    .ok (.one (n + 1 + if closed then 1 else 0)
      ⟨.fence, "code", .ofList (endedLines l.indent.toNat (ls.take n)), .ofList fence.info, [], []⟩)
  else if body.head? = some '>' then readQuotation quotation f l ls
  else if isThematicBreak body then .ok (.one 1 ⟨.thematicBreak, "hr", "", "", [], []⟩)
  else if itemInterrupts f .list l then
    match itemMark? body with
    | some mark => readList item f mark l ls
    | none => .ok (readText f l ls)
  else match readLeaf? f l ls with
    | some blocks => .ok blocks
    | none => .ok (readText f l ls)

/-- All blocks of a container.  The first number bounds the steps; each takes at least one line. -/
def readLoop (quotation item : BlockReader) (f : Frame) : Nat → List Line → Except Failure Blocks
  | 0, _ => .ok ⟨[], [], 0⟩
  | fuel + 1, lines =>
    let blank := (lines.takeWhile Line.isEmpty).length
    match lines.drop blank with
    | [] => .ok ⟨[], [], lines.length⟩
    | l :: ls =>
      if f.isOutside l then .ok ⟨[], [], blank⟩
      else do
        let block ← readBlock quotation item f l ls
        let more ← readLoop quotation item f fuel ((l :: ls).drop block.used)
        return { block.append more with used := blank + block.used + more.used }

/-- The reader where nothing may be nested any more: it passes over everything in the container. -/
def passOver : BlockReader := fun f lines =>
  let blank := (lines.takeWhile Line.isEmpty).length
  match lines.drop blank with
  | [] => .ok ⟨[], [], lines.length⟩
  | l :: _ => .ok ⟨[], [], if f.isOutside l then blank else lines.length⟩

/-- A reader with a number of levels left.  A quotation takes one level, a list item two. -/
def blockReader : Nat → BlockReader
  | 0 => passOver
  | 1 => fun f lines => readLoop passOver passOver f (lines.length + 1) lines
  | depth + 2 => fun f lines =>
    readLoop (blockReader (depth + 1)) (blockReader depth) f (lines.length + 1) lines

/-- The blocks of a text. -/
def readBlocks (preset : Preset) (text : List Char) : Except Failure Blocks :=
  blockReader preset.maxNesting ⟨preset, 0, none⟩ (Line.ofText text)

end ContentBlocks.Markdown
