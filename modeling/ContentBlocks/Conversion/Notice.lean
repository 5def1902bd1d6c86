import ContentBlocks.Conversion.Block
import ContentBlocks.Text.Quoted

/-!
# What conversion remarks on

Highlights that are found and nodes that are not understood are remarked on, in the order in which
conversion comes to them.  Remarks do not depend on keys; a conversion that fails has made the
remarks up to the node that it fails at, with those of that node.
-/

namespace ContentBlocks.Conversion

/-- A remark. -/
inductive Notice where
  | highlight (word : String)
  | unknownInline (name : String)
  | unknownBlock (name : String)
  deriving DecidableEq

/-- The text of a remark. -/
def Notice.message : Notice → String
  | .highlight word => "Blockquote detected as " ++ word ++ " highlight"
  | .unknownInline name =>
    "Unsupported inline node " ++ Text.quoted name ++ "; emitting empty span"
  | .unknownBlock name =>
    "Unsupported block node " ++ Text.quoted name ++ "; emitting placeholder"

/-- Whether a kind of leaf is understood. -/
def isKnownLeaf : NodeKind → Bool
  | .text => true
  | .codeSpan => true
  | .softBreak => true
  | .hardBreak => true
  | _ => false

mutual

/-- The remarks on an inline node. -/
def inlineNotices : Node → List Notice
  | ⟨kind, _, _, _, _, children⟩ =>
    if kind.mark?.isSome then inlineNoticesOfAll children
    else if isKnownLeaf kind then []
    else [.unknownInline kind.name]

/-- The remarks on inline nodes in a row. -/
def inlineNoticesOfAll : List Node → List Notice
  | [] => []
  | n :: ns => inlineNotices n ++ inlineNoticesOfAll ns

end

/-- The remarks on the text that a container holds. -/
def containerNotices (container : Option Node) : List Notice :=
  inlineNoticesOfAll (containerNodes container)

/-- The remarks on the paragraphs among some nodes. -/
def paragraphNotices (ns : List Node) : List Notice :=
  (ns.filter (·.kind = .paragraph)).flatMap fun n => containerNotices n.container?

/-- The remarks on a node at the top of a document. -/
def Notice.ofNode (n : Node) : List Notice :=
  match n.kind with
  | .heading => if (tagNumber? n).isSome then containerNotices n.container? else []
  | .paragraph => if (loneImage? n.container?).isSome then [] else containerNotices n.container?
  | .fence => []
  | .indentedCode => []
  | .blockquote =>
    match Trigger.of? n with
    | some trigger => .highlight trigger.word :: paragraphNotices n.children
    | none => paragraphNotices n.children
  | .bulletList => n.children.flatMap fun item => paragraphNotices item.children
  | .orderedList => n.children.flatMap fun item => paragraphNotices item.children
  | .table =>
    (rowNodes n).flatMap fun row =>
      row.children.flatMap fun cell => containerNotices cell.container?
  | .thematicBreak => []
  | kind => [.unknownBlock kind.name]

/-- The remarks made while a document is converted. -/
def Notice.ofDocument (source : Key.Source) : List Node → List Notice
  | [] => []
  | n :: ns =>
    ofNode n ++
      match n.toBlocks.run source 0 with
      | .ok _ => ofDocument source ns
      | .error _ => []

end ContentBlocks.Conversion
