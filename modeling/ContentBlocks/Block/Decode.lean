import ContentBlocks.Block.Basic
import ContentBlocks.Json.Value
import ContentBlocks.Schema.Scalar

/-!
# Blocks from JSON

The reading of serialised blocks.  A field is found under its serialised name or, failing that,
under its plain one (`key` for `_key`); absent fields take their defaults and unknown ones are
passed over.  All issues of a value are reported, field by field and item by item.
-/

namespace ContentBlocks

open Schema

/-- The names of a field: the one it is written under, which reports use too, and the plain one. -/
structure FieldName where
  written : String
  plain : String

/-- A field with one name. -/
def FieldName.same (name : String) : FieldName := ⟨name, name⟩

/-- The key of whatever has one. -/
def FieldName.key : FieldName := ⟨"_key", "key"⟩

/-- The name of the kind of whatever has one. -/
def FieldName.type : FieldName := ⟨"_type", "type"⟩

/-- The value of a field under either name. -/
def FieldName.find? (name : FieldName) (fields : List (String × Json)) : Option Json :=
  fields.lookup name.written <|> fields.lookup name.plain

variable {α : Type}

/-- A field that has to be there. -/
def FieldName.required (name : FieldName) (check : Json → Checked α)
    (fields : List (String × Json)) : Checked α :=
  Checked.under (.field name.written)
    (match name.find? fields with
      | some v => check v
      | none => .fail .missing)

/-- A field with a default. -/
def FieldName.withDefault (name : FieldName) (check : Json → Checked α) (default : α)
    (fields : List (String × Json)) : Checked α :=
  match name.find? fields with
  | some v => Checked.under (.field name.written) (check v)
  | none => .ok default

namespace Decode

/-- A text. -/
def text (v : Json) : Checked String := Checked.ofScalar (Scalar.ofJson v).toText

/-- Null for nothing, or else a value. -/
def optional (check : Json → Checked α) : Json → Checked (Option α)
  | .null => .ok none
  | v => (check v).map some

/-- One of a list of named values. -/
def oneOf (all : List α) (name : α → String) : Json → Checked α
  | .str s =>
    match all.find? fun a => name a == s with
    | some a => .ok a
    | none => .fail .notListed
  | _ => .fail .notListed

/-- The one text that a field may hold. -/
def exactly (expected : String) : Json → Checked Unit
  | .str s => if s = expected then .ok () else .fail .notListed
  | _ => .fail .notListed

/-- A heading level. -/
def level (v : Json) : Checked Level :=
  match (Scalar.ofJson v).toWhole with
  | .error p => .fail p
  | .ok n =>
    if n < 1 then .fail .tooSmall
    else match Level.ofNat? n.toNat with
      | some l => .ok l
      | none => .fail .tooLarge

/-- A list of values. -/
def items (check : Json → Checked α) : Json → Checked (List α)
  | .arr vs => Checked.list check 0 vs
  | _ => .fail .notList

/-- The fields of an object. -/
def object (check : List (String × Json) → Checked α) : Json → Checked α
  | .obj fields => check fields
  | _ => .fail .notObject

/-- The start of every check of an object: its key, and the name of its kind. -/
def keyed (typeName : String) (build : String → α) (fields : List (String × Json)) : Checked α :=
  .both (.both (.ok fun key _ => build key) (FieldName.key.required text fields))
    (FieldName.type.withDefault (exactly typeName) () fields)

/-- A span. -/
def span : Json → Checked Span :=
  object fun fs =>
    .both (.both (keyed "span" Span.mk fs) ((FieldName.same "text").withDefault text "" fs))
      ((FieldName.same "marks").withDefault (items (oneOf Mark.all Mark.name)) [] fs)

/-- The fields of a text block. -/
def textBlockFields (fs : List (String × Json)) : Checked TextBlock :=
  .both
    (.both
      (.both
        (.both (keyed "block" TextBlock.mk fs)
          ((FieldName.same "style").withDefault (oneOf Style.all Style.name) .normal fs))
        ((FieldName.same "level").withDefault (optional level) none fs))
      ((FieldName.mk "listItem" "list_item").withDefault
        (optional (oneOf ListKind.all ListKind.name)) none fs))
    ((FieldName.same "children").withDefault (items span) [] fs)

/-- A text block. -/
def textBlock : Json → Checked TextBlock := object textBlockFields

/-- The fields of a code block. -/
def codeBlockFields (fs : List (String × Json)) : Checked CodeBlock :=
  .both
    (.both
      (.both (keyed "codeBlock" CodeBlock.mk fs)
        ((FieldName.same "language").withDefault (optional text) none fs))
      ((FieldName.same "filename").withDefault (optional text) none fs))
    ((FieldName.same "code").withDefault text "" fs)

/-- The fields of a highlight. -/
def highlightFields (fs : List (String × Json)) : Checked HighlightBlock :=
  .both
    (.both
      (.both (keyed "highlightBlock" HighlightBlock.mk fs)
        ((FieldName.same "kind").required (oneOf HighlightKind.all HighlightKind.name) fs))
      ((FieldName.same "title").withDefault (optional text) none fs))
    ((FieldName.same "content").withDefault (items textBlock) [] fs)

/-- The fields of an image. -/
def imageFields (fs : List (String × Json)) : Checked ImageBlock :=
  .both
    (.both
      (.both (keyed "image" ImageBlock.mk fs)
        ((FieldName.mk "assetRef" "asset_ref").required text fs))
      ((FieldName.same "alt").withDefault (optional text) none fs))
    ((FieldName.same "caption").withDefault (optional text) none fs)

/-- A table cell. -/
def tableCell : Json → Checked TableCell :=
  object fun fs =>
    .both (keyed "tableCell" TableCell.mk fs)
      ((FieldName.same "content").withDefault (items textBlock) [] fs)

/-- A table row. -/
def tableRow : Json → Checked TableRow :=
  object fun fs =>
    .both (keyed "tableRow" TableRow.mk fs)
      ((FieldName.same "cells").withDefault (items tableCell) [] fs)

/-- The fields of a table. -/
def tableFields (fs : List (String × Json)) : Checked TableBlock :=
  .both (keyed "table" TableBlock.mk fs)
    ((FieldName.same "rows").withDefault (items tableRow) [] fs)

/-- The fields of a block of a named kind, which is one more step in the place of its issues. -/
def tagged (name : String) (fs : List (String × Json)) : Option (Checked Block) :=
  let checked : Option (Checked Block) :=
    if name = "block" then some ((textBlockFields fs).map .text)
    else if name = "codeBlock" then some ((codeBlockFields fs).map .code)
    else if name = "highlightBlock" then some ((highlightFields fs).map .highlight)
    else if name = "image" then some ((imageFields fs).map .image)
    else if name = "table" then some ((tableFields fs).map .table)
    else if name = "separator" then some (keyed "separator" .separator fs)
    else none
  checked.map (Checked.under (.field name))

/-- A block, of the kind that its own field names. -/
def block : Json → Checked Block
  | .obj fs =>
    match FieldName.type.find? fs with
    | none => .fail .noTag
    | some (.str name) =>
      match tagged name fs with
      | some checked => checked
      | none => .fail .unknownTag
    | some _ => .fail .unknownTag
  | _ => .fail .notTagged

/-- A list of blocks. -/
def blocks (vs : List Json) : Checked (List Block) := Checked.list block 0 vs

end Decode

end ContentBlocks
