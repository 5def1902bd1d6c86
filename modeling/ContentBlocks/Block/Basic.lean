/-!
# Content blocks

A document is a flat list of blocks.  Every block, span, table row and table cell carries a key; the
text of a block is a list of spans, each with an ordered list of marks.

## Main definitions

* `Span`, `TextBlock`: runs of text, and the paragraphs, headings, quotations and list items made of
  them.
* `Block`: the six kinds of block.
-/

namespace ContentBlocks

/-- What a run of text is marked as. -/
inductive Mark where
  | strong
  | em
  | code
  | strikeThrough
  | link
  deriving DecidableEq

/-- The depth of a heading, from 1 to 6. -/
structure Level where
  val : Nat
  one_le : 1 ≤ val
  le_six : val ≤ 6
  deriving DecidableEq

/-- The level of a number, if it is one. -/
def Level.ofNat? (n : Nat) : Option Level :=
  if h : 1 ≤ n ∧ n ≤ 6 then some ⟨n, h.1, h.2⟩ else none

/-- What a text block is. -/
inductive Style where
  | normal
  | heading (level : Level)
  | blockquote
  deriving DecidableEq

/-- The kind of list that an item stands in. -/
inductive ListKind where
  | bullet
  | number
  deriving DecidableEq

/-- The kind of a highlight. -/
inductive HighlightKind where
  | info
  | warning
  | error
  | success
  | note
  deriving DecidableEq

/-- A run of text with the same marks throughout. -/
structure Span where
  key : String
  text : String
  marks : List Mark
  deriving DecidableEq

/-- A paragraph, heading, quotation or list item. -/
structure TextBlock where
  key : String
  style : Style
  level : Option Level
  listItem : Option ListKind
  children : List Span
  deriving DecidableEq

/-- Program text. -/
structure CodeBlock where
  key : String
  language : Option String
  filename : Option String
  code : String
  deriving DecidableEq

/-- A quotation set apart by its kind. -/
structure HighlightBlock where
  key : String
  kind : HighlightKind
  title : Option String
  content : List TextBlock
  deriving DecidableEq

/-- An image that stands alone, with its source as it was written. -/
structure ImageBlock where
  key : String
  assetRef : String
  alt : Option String
  caption : Option String
  deriving DecidableEq

/-- A cell of a table. -/
structure TableCell where
  key : String
  content : List TextBlock
  deriving DecidableEq

/-- A row of a table. -/
structure TableRow where
  key : String
  cells : List TableCell
  deriving DecidableEq

/-- A table; header rows are rows like the others. -/
structure TableBlock where
  key : String
  rows : List TableRow
  deriving DecidableEq

/-- A block of a document. -/
inductive Block where
  | text (b : TextBlock)
  | code (b : CodeBlock)
  | highlight (b : HighlightBlock)
  | image (b : ImageBlock)
  | table (b : TableBlock)
  | separator (key : String)
  deriving DecidableEq

/-- The key of a block. -/
def Block.key : Block → String
  | .text b => b.key
  | .code b => b.key
  | .highlight b => b.key
  | .image b => b.key
  | .table b => b.key
  | .separator key => key

/-- The name of a block's kind. -/
def Block.typeName : Block → String
  | .text _ => "block"
  | .code _ => "codeBlock"
  | .highlight _ => "highlightBlock"
  | .image _ => "image"
  | .table _ => "table"
  | .separator _ => "separator"

/-! ### Names -/

/-- The name of a mark. -/
def Mark.name : Mark → String
  | .strong => "strong"
  | .em => "em"
  | .code => "code"
  | .strikeThrough => "strike-through"
  | .link => "link"

/-- All marks. -/
def Mark.all : List Mark := [.strong, .em, .code, .strikeThrough, .link]

/-- The name of a style. -/
def Style.name : Style → String
  | .normal => "normal"
  | .heading level => "h" ++ toString level.val
  | .blockquote => "blockquote"

/-- The heading styles, shallowest first. -/
def Style.headings : List Style :=
  (List.range 6).filterMap fun n => (Level.ofNat? (n + 1)).map .heading

/-- All styles. -/
def Style.all : List Style := .normal :: Style.headings ++ [.blockquote]

/-- Whether a style is one of the heading styles. -/
def Style.isHeading : Style → Bool
  | .heading _ => true
  | _ => false

/-- The name of a list kind. -/
def ListKind.name : ListKind → String
  | .bullet => "bullet"
  | .number => "number"

/-- All list kinds. -/
def ListKind.all : List ListKind := [.bullet, .number]

/-- The name of a highlight kind. -/
def HighlightKind.name : HighlightKind → String
  | .info => "info"
  | .warning => "warning"
  | .error => "error"
  | .success => "success"
  | .note => "note"

/-- All highlight kinds. -/
def HighlightKind.all : List HighlightKind := [.info, .warning, .error, .success, .note]

end ContentBlocks
