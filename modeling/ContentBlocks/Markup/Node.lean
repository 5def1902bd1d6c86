import ContentBlocks.Json.Value

/-!
# The syntax tree of a document

What a reader of Markdown hands on: a tree whose nodes have a kind and, depending on it, a tag, some
content, the info line of a fence, attributes and children.  Nothing is demanded of the shape of the
tree; conversion is defined on all of them.
-/

namespace ContentBlocks

/-- The kind of a node.  `container` is the one node under a paragraph, heading or cell that holds
its text, both as written and as nodes. -/
inductive NodeKind where
  | paragraph
  | heading
  | blockquote
  | bulletList
  | orderedList
  | listItem
  | table
  | fence
  | indentedCode
  | thematicBreak
  | container
  | text
  | codeSpan
  | softBreak
  | hardBreak
  | strong
  | emphasis
  | strike
  | link
  | image
  | other (name : String)
  deriving DecidableEq

namespace NodeKind

/-- The kinds that have a name of their own, with their names. -/
def named : List (NodeKind × String) :=
  [(.paragraph, "paragraph"), (.heading, "heading"), (.blockquote, "blockquote"),
   (.bulletList, "bullet_list"), (.orderedList, "ordered_list"), (.listItem, "list_item"),
   (.table, "table"), (.fence, "fence"), (.indentedCode, "code_block"), (.thematicBreak, "hr"),
   (.container, "inline"), (.text, "text"), (.codeSpan, "code_inline"), (.softBreak, "softbreak"),
   (.hardBreak, "hardbreak"), (.strong, "strong"), (.emphasis, "em"), (.strike, "s"),
   (.link, "link"), (.image, "image")]

/-- The name of a kind. -/
def name : NodeKind → String
  | .other name => name
  | kind => (named.lookup kind).getD ""

/-- The kind of a name. -/
def ofName (name : String) : NodeKind :=
  match named.find? fun entry => entry.2 == name with
  | some entry => entry.1
  | none => .other name

end NodeKind

/-- A node of a syntax tree. -/
structure Node where
  kind : NodeKind
  tag : String
  content : String
  info : String
  attrs : List (String × Json)
  children : List Node

namespace Node

/-- A node with nothing but a kind, content and children. -/
def plain (kind : NodeKind) (content : String) (children : List Node) : Node :=
  ⟨kind, "", content, "", [], children⟩

/-- The node that holds the text of a paragraph, heading or cell. -/
def container? (n : Node) : Option Node := n.children.head?

end Node

end ContentBlocks
