import ContentBlocks.Address.Basic
import ContentBlocks.Markdown.Destination
import ContentBlocks.Text.Letter

/-!
# Link definitions

A definition gives an address and perhaps a title to a label, which links and images of the document
then refer to.  Labels that differ only in case or in blanks are the same; of two definitions of one
label the first counts.
-/

namespace ContentBlocks.Markdown

open Text

/-- What a label stands for. -/
structure Definition where
  label : List Char
  href : List Char
  title : List Char

/-- Every run of blanks turned into one space. -/
def squeezeBlanks : List Char → List Char
  | [] => []
  | [c] => [if isBlank c then ' ' else c]
  | c :: d :: cs =>
    if isBlank c then
      if isBlank d then squeezeBlanks (d :: cs) else ' ' :: squeezeBlanks (d :: cs)
    else c :: squeezeBlanks (d :: cs)

/-- The form in which labels are compared. -/
def labelForm (label : List Char) : List Char := upper (lower (squeezeBlanks (strip label)))

namespace Definition

/-- What a label stands for in a document. -/
def find? (definitions : List Definition) (label : List Char) : Option Definition :=
  definitions.find? fun d => d.label == labelForm label

/-- The label after an opening bracket, which is gone, and what follows its closing one. -/
def label? : List Char → Option (List Char × List Char)
  | [] => none
  | '\\' :: c :: cs => (label? cs).map fun (l, rest) => ('\\' :: c :: l, rest)
  | c :: cs =>
    if c = '[' then none
    else if c = ']' then some ([], cs)
    else (label? cs).map fun (l, rest) => (c :: l, rest)

/-- Whether a line may open a definition: after its opening bracket, the first closing one that is
not escaped is followed by a colon, or is not on the line. -/
def mayOpen : Char → List Char → Bool
  | _, [] => true
  | before, c :: cs =>
    if c = ']' && before ≠ '\\' then cs.head? = some ':' else mayOpen c cs

/-- Whether nothing is left of a line. -/
def atLineEnd (cs : List Char) : Bool :=
  match cs.dropWhile isSpaceOrTab with
  | [] => true
  | c :: _ => c == '\n'

/-- The number of line ends in a text. -/
def lineEnds (cs : List Char) : Nat := cs.count '\n'

/-- The title after a destination, with the number of line ends up to its end.  A gap has to stand
before it, and nothing after it on its line; an empty title that something follows spoils the
definition, any other one is just no title. -/
def titleAfter? (cs : List Char) : Option (List Char × Nat) :=
  let rest := skipGap cs
  let without := if atLineEnd cs then some ([], 0) else none
  if rest.length = cs.length || rest.isEmpty then without
  else match title? rest with
    | none => without
    | some (title, after) =>
      if atLineEnd after then some (title, lineEnds cs - lineEnds after)
      else if title.isEmpty then none
      else without

/-- The definition that a text begins with, and the number of line ends within it. -/
def ofText? (cs : List Char) : Option (Definition × Nat) := do
  let (label, rest) ← label? (← after? ['['] cs)
  let afterColon ← after? [':'] rest
  let target := skipGap afterColon
  let (destination, rest) ← destination? target
  let href := Address.normalize destination
  if !Address.isSafe href then none
  let (title, titleEnds) ← titleAfter? rest
  let form := labelForm label
  if form.isEmpty then none
  return (⟨form, href, title⟩, lineEnds label + (lineEnds afterColon - lineEnds target) + titleEnds)

end Definition

end ContentBlocks.Markdown
