import ContentBlocks.Block.Encode

/-!
# The shape of serialised blocks

The last check before a document is written.  It looks only at the top of each block, and for text
blocks at their spans: a kind and a key have to be there, and a text in every span.  Highlight
content and table cells are not looked into.  Blocks that are not serialised yet are looked at in
their full form.

`Fault` says where a sequence goes wrong first, and `wellShaped` is the absence of faults.
-/

namespace ContentBlocks.Shape

/-- Why a value is no sequence of blocks. -/
inductive Fault where
  | unidentified (index : Nat)
  | noSpans (index : Nat)
  | badSpan (index : Nat)
  | unreadable
  deriving DecidableEq

/-- Whether a field counts as present. -/
def has (name : String) (fields : List (String × Json)) : Bool :=
  match fields.lookup name with
  | some v => v.truthy
  | none => false

/-- Whether a field holds a text. -/
def hasText (name : String) (fields : List (String × Json)) : Bool :=
  match fields.lookup name with
  | some (.str _) => true
  | _ => false

/-- The fault of a text block's spans.  A span that is no object cannot be looked into at all. -/
def spansFault? (index : Nat) : List Json → Option Fault
  | [] => none
  | .obj fields :: rest =>
    if has "_type" fields && has "_key" fields && hasText "text" fields then spansFault? index rest
    else some (.badSpan index)
  | _ :: _ => some .unreadable

/-- The fault of one block. -/
def blockFault? (index : Nat) : Json → Option Fault
  | .obj fields =>
    if has "_type" fields && has "_key" fields then
      match fields.lookup "_type" with
      | some (.str "block") =>
        match fields.lookup "children" with
        | some (.arr spans) => spansFault? index spans
        | _ => some (.noSpans index)
      | _ => none
    else some (.unidentified index)
  | _ => some .unreadable

/-- The first fault of a sequence of blocks, counted from `start`. -/
def firstFault? (start : Nat) : List Json → Option Fault
  | [] => none
  | v :: vs => blockFault? start v <|> firstFault? (start + 1) vs

/-- The first fault of any value.  A text or an object is taken for the sequence of its characters
or names, none of which is a block. -/
def fault? : Json → Option Fault
  | .arr vs => firstFault? 0 vs
  | .str s => if s.isEmpty then none else some .unreadable
  | .obj fields => if fields.isEmpty then none else some .unreadable
  | _ => some .unreadable

/-- Whether a value is a sequence of blocks. -/
def wellShaped (v : Json) : Bool := (fault? v).isNone

/-- The first fault of blocks. -/
def faultOf? (bs : List Block) : Option Fault := firstFault? 0 (bs.map Block.toFullJson)

/-- Whether blocks are fit to be written. -/
def fit (bs : List Block) : Bool := (faultOf? bs).isNone

end ContentBlocks.Shape
