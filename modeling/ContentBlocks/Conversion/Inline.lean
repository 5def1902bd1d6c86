import ContentBlocks.Block.Basic
import ContentBlocks.Conversion.Keyed
import ContentBlocks.Markup.Node

/-!
# From inline nodes to spans

A span for every leaf, in order.  Emphasis, strong emphasis, deletions and links are no leaves: they
put a mark on every span beneath them, after the marks from further in, and a mark that is there
already is not put again.  The address of a link is not kept.
-/

namespace ContentBlocks

open Conversion

/-- A span with a further mark at the end, unless it has it. -/
def Span.mark (m : Mark) (s : Span) : Span :=
  if m ∈ s.marks then s else { s with marks := s.marks ++ [m] }

/-- The mark that a kind of node puts on what is beneath it. -/
def NodeKind.mark? : NodeKind → Option Mark
  | .strong => some .strong
  | .emphasis => some .em
  | .strike => some .strikeThrough
  | .link => some .link
  | _ => none

/-- The text and the marks of a node that is a leaf.  An empty text is none; a node of an unknown
kind is an empty one. -/
def NodeKind.leaf? (kind : NodeKind) (content : String) : Option (String × List Mark) :=
  match kind with
  | .text => if content.isEmpty then none else some (content, [])
  | .codeSpan => some (content, [.code])
  | .softBreak => some ("\n", [])
  | .hardBreak => some ("\n", [])
  | _ => some ("", [])

mutual

/-- The spans of an inline node. -/
def Node.spans : Node → Keyed (List Span)
  | ⟨kind, _, content, _, _, children⟩ =>
    match kind.mark? with
    | some m => return (← Node.spansOfAll children).map (Span.mark m)
    | none =>
      match kind.leaf? content with
      | some (text, marks) => return [⟨← draw, text, marks⟩]
      | none => return []

/-- The spans of inline nodes in a row. -/
def Node.spansOfAll : List Node → Keyed (List Span)
  | [] => return []
  | n :: ns => return (← n.spans) ++ (← Node.spansOfAll ns)

end

/-- The spans of the text that a container holds, if there is a container. -/
def containerSpans : Option Node → Keyed (List Span)
  | some container => Node.spansOfAll container.children
  | none => return []

end ContentBlocks
