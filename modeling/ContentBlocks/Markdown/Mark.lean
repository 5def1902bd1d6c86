import ContentBlocks.Markdown.Html
import ContentBlocks.Markdown.Line
import ContentBlocks.Markdown.Preset

/-!
# What lines begin with

The signs by which a line opens, continues or closes a block: the hashes of a heading, the marks of
a fence, the bullet of a list item and so on.  Each test looks at one line; those that depend on the
containers around it take a `Frame`.
-/

namespace ContentBlocks.Markdown

open Text

/-- The containers around some lines, as far as the reading of the lines depends on them. -/
structure Frame where
  preset : Preset
  /-- The column that the content of the innermost list item begins at. -/
  indent : Nat
  /-- That of the list item around it, if there is a list item at all. -/
  outer : Option Nat

namespace Frame

/-- Whether a line is indented too far to be anything but code. -/
def isCode (f : Frame) (l : Line) : Bool := f.preset.markup && l.indent - f.indent ≥ 4

/-- Whether a line stands before the content of its container. -/
def isOutside (f : Frame) (l : Line) : Bool := l.indent < f.indent

end Frame

/-! ### Leaves -/

/-- Whether a line is a thematic break: three or more equal marks, and blanks. -/
def isThematicBreak (body : List Char) : Bool :=
  match body with
  | c :: _ =>
    (c == '*' || c == '-' || c == '_') && body.all (fun d => d == c || isSpaceOrTab d) &&
      body.count c ≥ 3
  | [] => false

/-- The level and the text of a heading. -/
def heading? (body : List Char) : Option (Nat × List Char) :=
  let level := (body.takeWhile (· == '#')).length
  let rest := body.drop level
  if level = 0 || level > 6 then none
  else if !(match rest with
    | [] => true
    | c :: _ => isSpaceOrTab c) then none
  else
    let trimmed := dropEndWhile isSpaceOrTab rest
    let unmarked := dropEndWhile (· == '#') trimmed
    let content := match unmarked.getLast? with
      | some c => if isSpaceOrTab c then unmarked else trimmed
      | none => trimmed
    some (level, strip content)

/-- The level of the heading that a line underlines. -/
def underline? (body : List Char) : Option Nat :=
  match body with
  | c :: _ =>
    if (c == '-' || c == '=') && (body.dropWhile (· == c)).all isSpaceOrTab then
      some (if c = '=' then 1 else 2)
    else none
  | [] => none

/-- The opening of a fence. -/
structure Fence where
  mark : Char
  length : Nat
  info : List Char

/-- The fence that a line opens. -/
def fence? (body : List Char) : Option Fence :=
  match body with
  | c :: _ =>
    let length := (body.takeWhile (· == c)).length
    let info := body.drop length
    if (c == '~' || c == '\x60') && length ≥ 3 && !(c == '\x60' && info.contains c) then
      some ⟨c, length, info⟩
    else none
  | [] => none

/-- Whether a line closes a fence. -/
def Fence.closedBy (fence : Fence) (body : List Char) : Bool :=
  (body.takeWhile (· == fence.mark)).length ≥ fence.length &&
    (body.dropWhile (· == fence.mark)).all isSpaceOrTab

/-! ### Containers -/

/-- A line of a quotation without its mark and one blank after it. -/
def unquote (l : Line) : Line :=
  let column := l.indent.toNat + 1
  let rest := l.body.drop 1
  match rest with
  | ' ' :: inner =>
    let (n, reached) := measure l.base (column + 1) inner
    { l with
      text := inner, shift := n, indent := reached - (column + 1 : Nat), base := column + 1 }
  | '\t' :: inner =>
    if (column + l.base) % 4 = 3 then
      let (n, reached) := measure l.base (column + 1) inner
      { l with
        text := inner, shift := n, indent := reached - (column + 1 : Nat), base := column + 1 }
    else
      let (n, reached) := measure (l.base + 1) column rest
      { l with text := rest, shift := n, indent := reached - (column : Nat), base := column + 1 }
  | _ => { l with text := rest, shift := 0, indent := 0, base := column }

/-- The mark of a list item. -/
structure ItemMark where
  /-- The number of an ordered item. -/
  number : Option Nat
  /-- The bullet, or what closes the number. -/
  sign : Char
  /-- How many characters the mark has. -/
  length : Nat

/-- Whether nothing or a blank follows. -/
def endsMark : List Char → Bool
  | [] => true
  | c :: _ => isSpaceOrTab c

/-- The mark of an ordered item: one to nine digits and a period or parenthesis. -/
def orderedMark? (body : List Char) : Option ItemMark :=
  let ds := body.takeWhile Char.isDigit
  match body.dropWhile Char.isDigit with
  | c :: rest =>
    if !ds.isEmpty && ds.length ≤ 9 && (c == ')' || c == '.') && endsMark rest then
      some ⟨some (ds.foldl (fun n d => n * 10 + (d.toNat - 48)) 0), c, ds.length + 1⟩
    else none
  | [] => none

/-- The mark of a bullet item. -/
def bulletMark? (body : List Char) : Option ItemMark :=
  match body with
  | c :: rest =>
    if (c == '*' || c == '-' || c == '+') && endsMark rest then some ⟨none, c, 1⟩ else none
  | [] => none

/-- The mark of a list item. -/
def itemMark? (body : List Char) : Option ItemMark := orderedMark? body <|> bulletMark? body

/-- Whether two items belong to the same list. -/
def ItemMark.sameList (a b : ItemMark) : Bool :=
  a.number.isSome == b.number.isSome && a.sign == b.sign

/-! ### Tables -/

/-- The cells of a row.  A bar after a backslash is a bar in a cell; the text before it is given
backwards. -/
def splitCells : List Char → List Char → List (List Char)
  | before, [] => [before.reverse]
  | before, c :: cs =>
    if c = '|' then
      match before with
      | '\\' :: more => splitCells ('|' :: more) cs
      | _ => before.reverse :: splitCells [] cs
    else splitCells (c :: before) cs

/-- The cells of a row without the empty ones outside its outer bars. -/
def rowCells (line : List Char) : List (List Char) :=
  let cells := match splitCells [] line with
    | [] :: rest => rest
    | cells => cells
  if cells.getLast? = some [] then cells.dropLast else cells

/-- Whether a text is a column of the line under a table's head. -/
def isRule (cs : List Char) : Bool :=
  let inner := match cs with
    | ':' :: rest => rest
    | _ => cs
  match inner.reverse with
  | ':' :: back => !back.isEmpty && back.all (· == '-')
  | back => !back.isEmpty && back.all (· == '-')

/-- The number of columns, from the line under the head.  Only the first and the last column may be
empty, and then they are none. -/
def ruleColumns? (body : List Char) : Option Nat :=
  let isRuleChar := fun c => c == '|' || c == '-' || c == ':'
  match body with
  | a :: b :: rest =>
    if isRuleChar a && (isRuleChar b || isSpaceOrTab b) && !(a == '-' && isSpaceOrTab b) &&
        rest.all (fun c => isRuleChar c || isSpaceOrTab c) then
      let columns := (splitAt '|' body).map strip
      let inner := (columns.drop 1).dropLast
      if inner.any List.isEmpty || !columns.all (fun c => c.isEmpty || isRule c) then none
      else some (columns.countP (!·.isEmpty))
    else none
  | _ => none

/-- The head of a table: the cells of its first row, if the second line rules as many columns. -/
def tableHead? (f : Frame) (first second : Line) : Option (List (List Char)) :=
  if f.isOutside second || f.isCode second || f.isCode first then none
  else
    let line := strip first.body
    let cells := rowCells line
    if line.contains '|' && !cells.isEmpty && ruleColumns? second.body = some cells.length then
      some cells
    else none

/-! ### Interruptions -/

/-- What a line may put an end to. -/
inductive Interrupted where
  | paragraph
  | definition
  | quotation
  | list
  deriving DecidableEq

/-- Whether a list item on a line puts an end to something.  In a paragraph an ordered list begins
with one, and the item is not empty. -/
def itemInterrupts (f : Frame) (what : Interrupted) (l : Line) : Bool :=
  let continuesList := match f.outer with
    | some column => l.indent - column ≥ 4 && f.isOutside l
    | none => false
  if continuesList then false
  else match itemMark? l.body with
    | none => false
    | some mark =>
      if what = .paragraph && !f.isOutside l then
        (mark.number.isNone || mark.number = some 1) &&
          !(l.body.drop mark.length).all isSpaceOrTab
      else true

/-- Whether a table begins at the first of some lines. -/
def startsTable (f : Frame) (ls : List Line) : Bool :=
  match ls with
  | first :: second :: _ => f.preset.tables && (tableHead? f first second).isSome
  | _ => false

/-- Whether a line opens a block of HTML. -/
def htmlOpening? (f : Frame) (l : Line) : Option Html.Opening :=
  if f.preset.html then Html.opening? l.body else none

/-- Whether the first of some lines puts an end to what stands before it. -/
def interrupts (f : Frame) (what : Interrupted) (ls : List Line) : Bool :=
  match ls with
  | [] => false
  | l :: _ =>
    let body := l.body
    f.preset.markup &&
      (((what = .paragraph || what = .definition) && startsTable f ls) ||
        (!f.isCode l &&
          ((fence? body).isSome || body.head? = some '>' || isThematicBreak body ||
            (what ≠ .list &&
              (itemInterrupts f what l || (heading? body).isSome ||
                ((htmlOpening? f l).map Html.Opening.interrupts).getD false)))))

end ContentBlocks.Markdown
