import ContentBlocks.Block.Basic
import ContentBlocks.Markup.Node
import ContentBlocks.Text.Letter

/-!
# The trigger of a highlight

A quotation is a highlight if the first line of its first paragraph, as it was written, begins with
a kind between double asterisks.  After them come an optional colon and the title.  Case is ignored,
in the loose way of `Text.fold`.
-/

namespace ContentBlocks

open Text

/-- What a trigger line says: the keyword as it was written, and the title. -/
structure Trigger where
  keyword : List Char
  title : Option String
  deriving DecidableEq

namespace Trigger

/-- Up to the first line end. -/
def firstLine (s : String) : List Char := s.toList.takeWhile (· ≠ '\n')

/-- What follows a keyword between its asterisks. -/
def afterStars? (word : List Char) (cs : List Char) : Option (List Char) := do
  let inner ← after? ['*', '*'] cs
  let rest ← afterKeyword? word inner
  after? ['*', '*'] rest

/-- The title after the asterisks. -/
def titleOf (cs : List Char) : Option String :=
  let title := strip (match cs with
    | ':' :: rest => rest
    | rest => rest)
  if title.isEmpty then none else some (.ofList title)

/-- The trigger that a line is for one kind. -/
def ofKind? (line : List Char) (kind : HighlightKind) : Option Trigger :=
  let word := kind.name.toList
  (afterStars? word line).map fun rest => ⟨(line.drop 2).take word.length, titleOf rest⟩

/-- The trigger that a line is. -/
def ofLine? (line : List Char) : Option Trigger := HighlightKind.all.findSome? (ofKind? line)

/-- The line of a quotation that may be a trigger. -/
def lineOf? (quote : Node) : Option (List Char) :=
  match quote.children with
  | first :: _ =>
    if first.kind = .paragraph then first.container?.map fun c => firstLine c.content else none
  | [] => none

/-- The trigger of a quotation. -/
def of? (quote : Node) : Option Trigger := (lineOf? quote).bind fun line => ofLine? (strip line)

/-- The keyword in small letters. -/
def word (t : Trigger) : String := .ofList (lower t.keyword)

/-- The kind that the keyword names. -/
def kind? (t : Trigger) : Option HighlightKind :=
  HighlightKind.all.find? fun k => k.name == t.word

end Trigger

end ContentBlocks
