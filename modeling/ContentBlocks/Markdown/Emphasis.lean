import ContentBlocks.Markup.Node
import ContentBlocks.Text.Class

/-!
# Emphasis

Asterisks, low lines and tildes open and close emphasis.  A run of them can open, close, do both or
neither, by what stands on its two sides.  Each closing delimiter is paired with the last opening
one of its kind that is still free; two neighbouring pairs make strong emphasis.

The text is a row of pieces here.  Delimiters are pieces of text until pairing turns them into
openings and closings, from which `assemble` builds the nodes.

## Main definitions

* `Flanks.of`: what a run of delimiters can do.
* `pair`: the delimiters with their partners.
* `resolve`: the nodes of a row of pieces.
-/

namespace ContentBlocks.Markdown

open Text

/-- What a run of delimiters can do. -/
structure Flanks where
  opens : Bool
  closes : Bool

/-- White space in the sense of emphasis. -/
def isFlankSpace (c : Char) : Bool :=
  let n := c.toNat
  (9 ≤ n && n ≤ 13) || n == 32 || n == 0xA0 || n == 0x1680 || (0x2000 ≤ n && n ≤ 0x200A) ||
    n == 0x202F || n == 0x205F || n == 0x3000

/-- What a run between two characters can do.  Low lines do not split words. -/
def Flanks.of (before after : Char) (splitsWords : Bool) : Flanks :=
  let left :=
    !isFlankSpace after && (!isPunctuation after || isFlankSpace before || isPunctuation before)
  let right :=
    !isFlankSpace before && (!isPunctuation before || isFlankSpace after || isPunctuation after)
  { opens := left && (splitsWords || !right || isPunctuation before)
    closes := right && (splitsWords || !left || isPunctuation after) }

/-- A piece of a text that is being read.  A text that stands for itself is apart from the nodes,
also from those that an escape or a reference made. -/
inductive Piece where
  | text (s : String)
  | leaf (n : Node)
  | opening (kind : NodeKind)
  | closing

/-- A delimiter. -/
structure Delimiter where
  mark : Char
  /-- The length of its run, or zero where it does not matter. -/
  run : Nat
  /-- Its place among the pieces. -/
  place : Nat
  opens : Bool
  closes : Bool
  /-- The delimiter that closes what it opens. -/
  partner : Option Nat
  deriving Inhabited

/-! ### Pairing -/

/-- The state of pairing: `jumps` says how many delimiters before one may be passed over, `bottoms`
how far back the search for a kind of closing delimiter can end. -/
structure Pairing where
  delimiters : Array Delimiter
  jumps : Array Nat
  bottoms : List ((Char × Nat) × Int)
  /-- The first delimiter of the current run. -/
  head : Nat
  /-- The place of the last delimiter, if the run can go on. -/
  last : Option Nat

/-- Whether the lengths of two runs forbid to pair them: one of them can both open and close, and
the lengths add up to a multiple of three without both being one. -/
def oddPair (opener closer : Delimiter) : Bool :=
  (opener.closes || closer.opens) && (opener.run + closer.run) % 3 == 0 &&
    (opener.run % 3 != 0 || closer.run % 3 != 0)

/-- The free opening delimiter for a closing one, searched from `i` back to `bottom`.  The first
number bounds the steps. -/
def Pairing.findOpener? (p : Pairing) (closer : Delimiter) (bottom : Int) : Nat → Int → Option Nat
  | 0, _ => none
  | fuel + 1, i =>
    if i > bottom && i ≥ 0 then
      let opener := p.delimiters.getD i.toNat default
      if opener.mark == closer.mark && opener.opens && opener.partner.isNone &&
          !oddPair opener closer then some i.toNat
      else p.findOpener? closer bottom fuel (i - p.jumps.getD i.toNat 0 - 1)
    else none

/-- What a closing delimiter has in common with those that fail with it. -/
def Delimiter.group (d : Delimiter) : Char × Nat := (d.mark, (if d.opens then 3 else 0) + d.run % 3)

/-- Pairing of the `c`-th delimiter. -/
def Pairing.step (p : Pairing) (c : Nat) : Pairing :=
  let closer := p.delimiters.getD c default
  let jumps := p.jumps.push 0
  let sameRun :=
    (p.delimiters.getD p.head default).mark == closer.mark &&
      p.last.any fun place => place + 1 == closer.place
  let head := if sameRun then p.head else c
  let p := { p with jumps, head, last := some closer.place }
  if !closer.closes then p
  else
    let bottom := (p.bottoms.lookup closer.group).getD (-1)
    let start : Int := head - jumps.getD head 0 - 1
    match p.findOpener? closer bottom (c + 1) start with
    | some o =>
      let jump :=
        if o > 0 && !(p.delimiters.getD (o - 1) default).opens then jumps.getD (o - 1) 0 + 1 else 0
      { p with
        delimiters :=
          (p.delimiters.modify c fun d => { d with opens := false }).modify o fun d =>
            { d with partner := some c, closes := false }
        jumps := (jumps.setIfInBounds c (c - o + jump)).setIfInBounds o jump
        last := none }
    | none => if start = -1 then p else { p with bottoms := (closer.group, start) :: p.bottoms }

/-- The delimiters with their partners. -/
def pair (ds : Array Delimiter) : Array Delimiter :=
  ((List.range ds.size).foldl Pairing.step ⟨ds, #[], [], 0, none⟩).delimiters

/-! ### From pairs to openings and closings -/

/-- Whether a piece is a lone tilde. -/
def isLoneTilde : Piece → Bool
  | .text s => s == "~"
  | _ => false

/-- Pieces with the pairs of tildes turned into deletions, and the places of the lone tildes before
their ends. -/
def placeStrikes (ds : Array Delimiter) (pieces : Array Piece) : Array Piece × List Nat :=
  ds.foldl
    (fun (pieces, lone) d =>
      match d.partner with
      | some c =>
        if d.mark = '~' then
          let e := (ds.getD c default).place
          let pieces := (pieces.setIfInBounds d.place (.opening .strike)).setIfInBounds e .closing
          (pieces, if e > 0 && (pieces[e - 1]?.any isLoneTilde) then (e - 1) :: lone else lone)
        else (pieces, lone)
      | none => (pieces, lone))
    (pieces, [])

/-- The number of closings from a place on. -/
def closingsAt (pieces : Array Piece) : Nat → Nat → Nat
  | 0, _ => 0
  | fuel + 1, i =>
    match pieces[i]? with
    | some .closing => closingsAt pieces fuel (i + 1) + 1
    | _ => 0

/-- A lone tilde moved behind the closings after it. -/
def moveLone (pieces : Array Piece) (i : Nat) : Array Piece :=
  let j := i + closingsAt pieces pieces.size (i + 1)
  pieces.swapIfInBounds i j

/-- Whether the pair of the `i`-th delimiter makes strong emphasis with the pair around it. -/
def isStrong (ds : Array Delimiter) (i c : Nat) : Bool :=
  let d := ds.getD i default
  match i, ds[c]?, ds[c + 1]? with
  | before + 1, some closer, some next =>
    let outer := ds.getD before default
    outer.partner == some (c + 1) && outer.mark == d.mark && outer.place + 1 == d.place &&
      next.place == closer.place + 1
  | _, _, _ => false

/-- Pieces with the pairs of the first `i` delimiters turned into emphasis, from the last one on. -/
def placeEmphasis (ds : Array Delimiter) : Nat → Array Piece → Array Piece
  | 0, pieces => pieces
  | i + 1, pieces =>
    let d := ds.getD i default
    match d.partner with
    | some c =>
      if d.mark = '~' then placeEmphasis ds i pieces
      else
        let closer := ds.getD c default
        if isStrong ds i c then
          let pieces := pieces.setIfInBounds d.place (.opening .strong)
          let pieces := pieces.setIfInBounds closer.place .closing
          let pieces := pieces.setIfInBounds (ds.getD (i - 1) default).place (.text "")
          let pieces := pieces.setIfInBounds (ds.getD (c + 1) default).place (.text "")
          placeEmphasisAfterStrong ds i pieces
        else
          let pieces := pieces.setIfInBounds d.place (.opening .emphasis)
          placeEmphasis ds i (pieces.setIfInBounds closer.place .closing)
    | none => placeEmphasis ds i pieces
where
  /-- The same, where the last delimiter belongs to strong emphasis already. -/
  placeEmphasisAfterStrong (ds : Array Delimiter) : Nat → Array Piece → Array Piece
    | 0, pieces => pieces
    | i + 1, pieces => placeEmphasis ds i pieces

/-! ### Nodes -/

/-- A node put before others, which are given backwards; neighbouring texts become one, and empty
ones none. -/
def addNode (n : Node) (before : List Node) : List Node :=
  if n.kind = .text then
    if n.content.isEmpty then before
    else match before with
      | m :: rest =>
        if m.kind = .text then .plain .text (m.content ++ n.content) [] :: rest else n :: before
      | [] => [n]
  else n :: before

/-- The nodes at the top where all open elements end.  The nodes of the innermost one are given
backwards, and so are those around it. -/
def closeAll (nodes : List Node) : List (NodeKind × List Node) → List Node
  | [] => nodes.reverse
  | (kind, before) :: outer => closeAll (.plain kind "" nodes.reverse :: before) outer

/-- The nodes of pieces.  The nodes of the innermost open element so far are given backwards, and so
are those around it. -/
def assemble : List Piece → List Node → List (NodeKind × List Node) → List Node
  | [], nodes, outer => closeAll nodes outer
  | .text s :: rest, nodes, outer => assemble rest (addNode (.plain .text s []) nodes) outer
  | .leaf n :: rest, nodes, outer => assemble rest (addNode n nodes) outer
  | .opening kind :: rest, nodes, outer => assemble rest [] ((kind, nodes) :: outer)
  | .closing :: rest, nodes, (kind, before) :: outer =>
    assemble rest (.plain kind "" nodes.reverse :: before) outer
  | .closing :: rest, nodes, [] => assemble rest nodes []

/-- The nodes of a row of pieces with delimiters among them. -/
def resolve (pieces : Array Piece) (ds : Array Delimiter) : List Node :=
  let ds := pair ds
  let (pieces, lone) := placeStrikes ds pieces
  let pieces := lone.foldl moveLone pieces
  assemble (placeEmphasis ds ds.size pieces).toList [] []

end ContentBlocks.Markdown
