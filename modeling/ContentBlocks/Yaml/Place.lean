import ContentBlocks.Text.Class

/-!
# Places in a text

Indentation decides what a YAML text means, so reading it keeps track of the column.  A `Place` is
what is left of the text together with the distance from its start, the line and the column.
-/

namespace ContentBlocks.Yaml

/-- Where reading has come to. -/
structure Place where
  rest : List Char
  offset : Nat
  line : Nat
  column : Nat

/-- The characters that end a line. -/
def isBreak (c : Char) : Bool :=
  c = '\n' || c = '\r' || c = '\x85' || c = '\u2028' || c = '\u2029'

/-- Characters that a text may hold. -/
def isAllowed (c : Char) : Bool :=
  let n := c.toNat
  n = 9 || n = 10 || n = 13 || (0x20 ≤ n && n ≤ 0x7E) || n = 0x85 || (0xA0 ≤ n && n ≤ 0xFFFD) ||
    0x10000 ≤ n

/-- Nothing, or a line end: what may follow the end of a line's content. -/
def endsLine : Option Char → Bool
  | none => true
  | some c => isBreak c

/-- Nothing, a space or a line end. -/
def endsField : Option Char → Bool
  | none => true
  | some c => c = ' ' || isBreak c

/-- Nothing, a blank or a line end. -/
def endsWord : Option Char → Bool
  | none => true
  | some c => c = ' ' || c = '\t' || isBreak c

/-- A letter or digit of ASCII, a hyphen or a low line: what names are made of. -/
def isNameChar (c : Char) : Bool := c.isAlphanum || c = '-' || c = '_'

namespace Place

/-- The start of a text. -/
def start (cs : List Char) : Place := ⟨cs, 0, 0, 0⟩

/-- The character at a place. -/
def head? (p : Place) : Option Char := p.rest.head?

/-- The character some way behind a place. -/
def ahead (p : Place) (n : Nat) : Option Char := p.rest[n]?

/-- The place one character further.  A byte order mark takes no column. -/
def next (p : Place) : Place :=
  match p.rest with
  | [] => p
  | c :: cs =>
    if isBreak c && !(c = '\r' && cs.head? = some '\n') then ⟨cs, p.offset + 1, p.line + 1, 0⟩
    else if c = '\uFEFF' then ⟨cs, p.offset + 1, p.line, p.column⟩
    else ⟨cs, p.offset + 1, p.line, p.column + 1⟩

/-- The place a number of characters further. -/
def advance : Nat → Place → Place
  | 0, p => p
  | n + 1, p => advance n p.next

/-- The characters from a place on that satisfy `f`. -/
def taken (f : Char → Bool) (p : Place) : List Char := p.rest.takeWhile f

/-- The place after the characters that satisfy `f`. -/
def skip (f : Char → Bool) (p : Place) : Place := advance (p.taken f).length p

/-- The line end at a place, as what it counts for, and the place after it. -/
def lineBreak? (p : Place) : Option (Char × Place) :=
  match p.rest with
  | '\r' :: '\n' :: _ => some ('\n', advance 2 p)
  | c :: _ =>
    if c = '\u2028' || c = '\u2029' then some (c, p.next)
    else if isBreak c then some ('\n', p.next)
    else none
  | [] => none

/-- The place after a line end, if there is one. -/
def skipBreak (p : Place) : Place :=
  match p.lineBreak? with
  | some (_, p) => p
  | none => p

/-- Whether a mark of three characters stands alone at a place. -/
def isMarked (mark : List Char) (p : Place) : Bool :=
  p.rest.take 3 == mark && endsWord (p.ahead 3)

/-- Whether a document starts or ends at a place, given that a line does. -/
def atDocumentEdge (p : Place) : Bool :=
  p.isMarked ['-', '-', '-'] || p.isMarked ['.', '.', '.']

/-- The place after spaces and a comment, where a line must end. -/
def afterComment (p : Place) : Place :=
  let p := p.skip (· == ' ')
  if p.head? = some '#' then p.skip fun c => !isBreak c else p

end Place

end ContentBlocks.Yaml
