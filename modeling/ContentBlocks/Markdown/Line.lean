import ContentBlocks.Text.Class

/-!
# Lines

A text is read line by line.  A line knows where its content begins and how far it is indented, in
columns, with tab stops every four columns.  The containers around a line change this: a quotation
takes its mark off the line, and the first line of a list item counts as indented to its content.

## Main definitions

* `Line.ofText`: the lines of a text.
* `Line.cut`: a line without the indentation of its container.
-/

namespace ContentBlocks.Markdown

open Text

/-- A line as its containers leave it. -/
structure Line where
  /-- The characters that are left. -/
  text : List Char
  /-- How many of them stand before the content. -/
  shift : Nat
  /-- The column of the content.  It is negative for a line that goes on with a quotation's
  paragraph without having its mark. -/
  indent : Int
  /-- The column of the first character, for the sake of tab stops. -/
  base : Nat
  /-- Whether the line ends with the text and not with a line end. -/
  unended : Bool

/-- The column after a tab. -/
def afterTab (base column : Nat) : Nat := column + (4 - (column + base) % 4)

/-- The number of spaces and tabs at the start of a text, and the column after them. -/
def measure (base : Nat) : Nat → List Char → Nat × Nat
  | column, ' ' :: cs =>
    let (n, column) := measure base (column + 1) cs
    (n + 1, column)
  | column, '\t' :: cs =>
    let (n, column) := measure base (afterTab base column) cs
    (n + 1, column)
  | column, _ => (0, column)

namespace Line

/-- A line outside all containers. -/
def plain (unended : Bool) (text : List Char) : Line :=
  let (n, column) := measure 0 0 text
  ⟨text, n, column, 0, unended⟩

/-- The lines between line ends.  What follows the last line end is a line only if there is
something on it. -/
def ofPieces : List (List Char) → List Line
  | [] => []
  | [piece] => if piece.all isSpaceOrTab then [] else [plain true piece]
  | piece :: rest => plain false piece :: ofPieces rest

/-- The lines of a text. -/
def ofText (cs : List Char) : List Line := ofPieces (splitAt '\n' cs)

/-- The content of a line. -/
def body (l : Line) : List Char := l.text.drop l.shift

/-- Whether a line has no content. -/
def isEmpty (l : Line) : Bool := l.body.isEmpty

/-- A text without an indentation.  `masked` characters at its start count as indentation whatever
they are; a tab that reaches beyond the indentation leaves spaces. -/
def cutText (base indent : Nat) : Nat → Nat → List Char → List Char
  | _, column, [] => List.replicate (column - indent) ' '
  | masked, column, c :: cs =>
    if column ≥ indent then List.replicate (column - indent) ' ' ++ c :: cs
    else if c = '\t' then cutText base indent (masked - 1) (afterTab base column) cs
    else if c = ' ' || masked > 0 then cutText base indent (masked - 1) (column + 1) cs
    else c :: cs

/-- A line without an indentation. -/
def cut (indent : Nat) (l : Line) : List Char := cutText l.base indent l.shift 0 l.text

end Line

/-- Lines without an indentation, as one text. -/
def joinLines (indent : Nat) (ls : List Line) : List Char :=
  List.intercalate ['\n'] (ls.map (·.cut indent))

/-- Lines without an indentation, each with its line end. -/
def endedLines (indent : Nat) (ls : List Line) : List Char :=
  ls.flatMap fun l => l.cut indent ++ ['\n']

end ContentBlocks.Markdown
