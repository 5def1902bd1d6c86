import ContentBlocks.Yaml.QuotedText

/-!
# Scalars as blocks

A literal scalar keeps its lines; a folded one joins those that neither are indented nor stand
beside an empty line.  The header says how deep the block is indented, where that is not read off
its first line, and what becomes of the line ends at its end.
-/

namespace ContentBlocks.Yaml

/-- What becomes of the line ends at the end of a block. -/
inductive Ending where
  /-- One line end is kept. -/
  | clip
  | strip
  | keep
  deriving DecidableEq

/-- What the header of a block says. -/
structure BlockHeader where
  ending : Ending
  indentation : Option Nat

/-- The ending that a sign names. -/
def Ending.ofSign? : Option Char → Option Ending
  | some '+' => some .keep
  | some '-' => some .strip
  | _ => none

/-- The digit at a place. -/
def digitAt? (p : Place) : Option Nat :=
  p.head?.bind fun c => if c.isDigit then some (c.toNat - 48) else none

/-- The ending that is named at a place, and the place after it. -/
def readEnding (p : Place) : Option Ending × Place :=
  match Ending.ofSign? p.head? with
  | some e => (some e, p.next)
  | none => (none, p)

/-- The indentation that is given at a place, and the place after it. -/
def readIndentation (p : Place) : Option Nat × Place :=
  match digitAt? p with
  | some n => (some n, p.next)
  | none => (none, p)

/-- The header of a block, from the place after its indicator on, and the place where its first line
begins. -/
def blockHeader (p : Place) : Except Failure (BlockHeader × Place) :=
  let (before, p) := readEnding p
  let (indentation, p) := readIndentation p
  let (ending, p) := match before with
    | some e => (some e, p)
    | none => if indentation.isSome then readEnding p else (none, p)
  if indentation = some 0 || !endsField p.head? then .error .malformed
  else
    let p := p.afterComment
    if endsLine p.head? then .ok (⟨ending.getD .clip, indentation⟩, p.skipBreak)
    else .error .malformed

/-- The empty lines that a block begins with, the deepest indentation among them and the first line
with text, and the place of that text.  The first argument bounds the number of steps. -/
def leadingBreaks : Nat → Nat → Place → List Char × Nat × Place
  | 0, deepest, p => ([], deepest, p)
  | fuel + 1, deepest, p =>
    if p.head? = some ' ' then leadingBreaks fuel (max deepest p.next.column) p.next
    else match p.lineBreak? with
      | none => ([], deepest, p)
      | some (c, p) =>
        let (cs, deepest, p) := leadingBreaks fuel deepest p
        (c :: cs, deepest, p)

/-- The place after the spaces that indent a block. -/
def skipIndentation : Nat → Place → Place
  | 0, p => p
  | n + 1, p => if p.head? = some ' ' then skipIndentation n p.next else p

/-- The empty lines between two lines of a block indented by `margin`, and the place after them and
the indentation.  The first argument bounds the number of steps. -/
def blockBreaks (margin : Nat) : Nat → Place → List Char × Place
  | 0, p => ([], p)
  | fuel + 1, p =>
    let p := skipIndentation (margin - p.column) p
    match p.lineBreak? with
    | none => ([], p)
    | some (c, p) =>
      let (cs, p) := blockBreaks margin fuel p
      (c :: cs, p)

/-- The text of the lines of a block, `pending` being the line ends before the line at the place;
what is left at the end are the last line end and the empty lines after it.  The first argument
bounds the number of steps. -/
def blockLines (fold : Bool) (margin : Nat) :
    Nat → List Char → Place → List Char × List Char × List Char × Place
  | 0, pending, p => ([], [], pending, p)
  | fuel + 1, pending, p =>
    if p.column = margin && p.head?.isSome then
      let isText (p : Place) : Bool := !(p.head?.any Text.isSpaceOrTab)
      let line := p.taken fun c => !isBreak c
      let after := p.advance line.length
      let (lineEnd, below) := match after.lineBreak? with
        | some (c, q) => ([c], q)
        | none => ([], after)
      let (breaks, next) := blockBreaks margin (below.rest.length + 1) below
      if next.column = margin && next.head?.isSome then
        let joint :=
          if fold && lineEnd = ['\n'] && isText p && isText next then
            if breaks.isEmpty then [' '] else []
          else lineEnd
        let (text, rest) := blockLines fold margin fuel breaks next
        (pending ++ line ++ joint ++ text, rest)
      else (pending ++ line, lineEnd, breaks, next)
    else ([], [], pending, p)

/-- A block, from the place after its indicator on, within a block of `margin` columns. -/
def blockText (fold : Bool) (margin : Nat) (p : Place) : Except Failure (List Char × Place) := do
  let (header, p) ← blockHeader p
  let least := max margin 1
  let (depth, breaks, p) := match header.indentation with
    | some n =>
      let depth := least + n - 1
      let (breaks, p) := blockBreaks depth (p.rest.length + 1) p
      (depth, breaks, p)
    | none =>
      let (breaks, deepest, p) := leadingBreaks (p.rest.length + 1) 0 p
      (max least deepest, breaks, p)
  let (text, lineEnd, rest, p) := blockLines fold depth (p.rest.length + 1) breaks p
  return (text ++ (if header.ending = .strip then [] else lineEnd) ++
    (if header.ending = .keep then rest else []), p)

end ContentBlocks.Yaml
