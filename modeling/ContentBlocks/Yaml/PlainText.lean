import ContentBlocks.Yaml.QuotedText

/-!
# Scalars without marks

A plain scalar goes on over line ends as long as the lines are indented deeply enough.  It ends
before a comment and before a colon that is followed by a blank; between brackets it ends at their
signs too.
-/

namespace ContentBlocks.Yaml

/-- The characters that have a meaning between brackets. -/
def isBracketSign (c : Char) : Bool :=
  c = ',' || c = '[' || c = ']' || c = '\x7b' || c = '\x7d'

/-- The longest piece of a plain scalar without blanks at the start of a text. -/
def plainPiece (inFlow : Bool) : List Char → List Char
  | [] => []
  | c :: cs =>
    if endsWord (some c) then []
    else if c = ':' && (endsWord cs.head? || (inFlow && cs.head?.any isBracketSign)) then []
    else if inFlow && (c = '?' || isBracketSign c) then []
    else c :: plainPiece inFlow cs

/-- Whether a plain scalar may begin with a character, given the one after it. -/
def startsPlain (inFlow : Bool) (c : Char) (after : Option Char) : Bool :=
  if c = '-' then !endsWord after
  else if c = '?' || c = ':' then !inFlow && !endsWord after
  else !endsWord (some c) && !isBracketSign c &&
    !(['#', '&', '*', '!', '|', '>', '\'', '"', '%', '@', '\x60'].contains c)

/-- What stands between two pieces of a plain scalar. -/
structure Gap where
  /-- What it counts for; nothing where the scalar ends. -/
  text : List Char
  /-- Whether a line ended. -/
  broken : Bool
  place : Place

/-- The blank lines and the indentation after a line end; `none` where a document ends.  The first
argument bounds the number of steps. -/
def plainBreaks : Nat → Place → Option (List Char) × Place
  | 0, p => (none, p)
  | fuel + 1, p =>
    if p.atDocumentEdge then (none, p)
    else
      let p := p.skip (· == ' ')
      match p.lineBreak? with
      | none => (some [], p)
      | some (c, p) =>
        let (cs, p) := plainBreaks fuel p
        (cs.map (c :: ·), p)

/-- The gap at a place. -/
def plainGap (p : Place) : Gap :=
  let spaces := p.taken (· == ' ')
  let p := p.advance spaces.length
  match p.lineBreak? with
  | none => ⟨spaces, false, p⟩
  | some (c, p) =>
    match plainBreaks (p.rest.length + 1) p with
    | (some cs, p) => ⟨folded c cs, true, p⟩
    | (none, p) => ⟨[], true, p⟩

/-- A plain scalar that goes on after a gap.  Outside brackets its lines have at least `margin`
columns before them.  The first argument bounds the number of steps. -/
def plainText (inFlow : Bool) (margin : Nat) : Nat → Gap → Gap
  | 0, gap => { gap with text := [] }
  | fuel + 1, gap =>
    let p := gap.place
    let piece := if p.head? = some '#' then [] else plainPiece inFlow p.rest
    if piece.isEmpty then { gap with text := [] }
    else
      let next := plainGap (p.advance piece.length)
      if next.text.isEmpty || next.place.head? = some '#' ||
          (!inFlow && next.place.column < margin) then
        { next with text := gap.text ++ piece }
      else
        let more := plainText inFlow margin fuel next
        { more with text := gap.text ++ piece ++ more.text }

end ContentBlocks.Yaml
