import ContentBlocks.Yaml.BlockText
import ContentBlocks.Yaml.PlainText
import ContentBlocks.Yaml.Property

/-!
# From characters to tokens

Outside brackets the structure of a YAML text is its indentation: a block starts where an entry or a
key stands deeper than the block around it, and ends where a line begins less deep.  That something
was a key shows only at the colon behind it, so the places where a key may have begun are
remembered, and the tokens that make it one are put in there.

Columns are counted from one in margins: a block with margin `m` has its entries in column `m - 1`,
and `0` is the margin of the whole text.
-/

namespace ContentBlocks.Yaml

/-- A place where a key may have begun. -/
structure KeyStart where
  /-- The number of tokens before it. -/
  index : Nat
  /-- Whether nothing but a key can stand there. -/
  required : Bool
  place : Place

/-- What is known while tokens are read. -/
structure Layout where
  place : Place
  /-- The tokens read so far, the newest first. -/
  tokens : List Token
  /-- The number of open brackets. -/
  depth : Nat
  margin : Nat
  /-- The margins of the blocks around. -/
  outer : List Nat
  /-- Whether a key may begin at the next token. -/
  keyAllowed : Bool
  /-- The places where a key may have begun, by the number of brackets around them. -/
  keys : List (Nat × KeyStart)

namespace Layout

/-- The start of a text. -/
def start (cs : List Char) : Layout := ⟨.start cs, [], 0, 0, [], true, []⟩

/-- Whether reading is between brackets. -/
def inFlow (s : Layout) : Bool := 0 < s.depth

/-- A token more. -/
def push (t : Token) (s : Layout) : Layout := { s with tokens := t :: s.tokens }

/-- Tokens put in where `index` tokens stand before them. -/
def insert (index : Nat) (ts : List Token) (s : Layout) : Layout :=
  let newer := s.tokens.length - index
  { s with tokens := s.tokens.take newer ++ ts.reverse ++ s.tokens.drop newer }

/-- The end of every block that is deeper than a margin. -/
def closeBlocks (margin : Nat) (s : Layout) : Layout :=
  if s.inFlow then s
  else
    let rec close : Nat → List Nat → List Token → Layout
      | m, [], ts => { s with margin := m, outer := [], tokens := ts }
      | m, o :: os, ts =>
        if m > margin then close o os (.blockEnd :: ts)
        else { s with margin := m, outer := o :: os, tokens := ts }
    close s.margin s.outer s.tokens

/-- Whether something in a column begins a deeper block. -/
def isDeeper (column : Nat) (s : Layout) : Bool := s.margin < column + 1

/-- A deeper block whose entries stand in a column. -/
def deepen (column : Nat) (s : Layout) : Layout :=
  { s with margin := column + 1, outer := s.margin :: s.outer }

/-- Whether a place where a key may have begun is too far back by now. -/
def isPast (s : Layout) (k : KeyStart) : Bool :=
  k.place.line ≠ s.place.line || s.place.offset > k.place.offset + 1024

/-- Forgets the places where no key can have begun any more. -/
def forgetPast (s : Layout) : Except Failure Layout :=
  if s.keys.any fun (_, k) => s.isPast k && k.required then .error .malformed
  else .ok { s with keys := s.keys.filter fun (_, k) => !s.isPast k }

/-- Forgets the place where a key may have begun between the present brackets. -/
def forgetKey (s : Layout) : Except Failure Layout :=
  if (s.keys.lookup s.depth).any (·.required) then .error .malformed
  else .ok { s with keys := s.keys.filter fun (d, _) => d ≠ s.depth }

/-- Remembers the present place as one where a key may begin. -/
def rememberKey (s : Layout) : Except Failure Layout :=
  if s.keyAllowed then do
    let required := !s.inFlow && s.margin = s.place.column + 1
    let s ← s.forgetKey
    return { s with keys := (s.depth, ⟨s.tokens.length, required, s.place⟩) :: s.keys }
  else .ok s

/-- The place of the next token; a line end outside brackets allows a key.  The second argument
bounds the number of steps. -/
def skipToToken (inFlow : Bool) : Nat → Bool → Place → Bool × Place
  | 0, allowed, p => (allowed, p)
  | fuel + 1, allowed, p =>
    let p := p.afterComment
    match p.lineBreak? with
    | some (_, p) => skipToToken inFlow fuel (allowed || !inFlow) p
    | none => (allowed, p)

/-- The state before the next token. -/
def toToken (s : Layout) : Except Failure Layout := do
  let p := if s.place.offset = 0 && s.place.head? = some '\uFEFF' then s.place.next else s.place
  let (allowed, p) := skipToToken s.inFlow (p.rest.length + 1) s.keyAllowed p
  let s ← { s with place := p, keyAllowed := allowed }.forgetPast
  return s.closeBlocks (p.column + 1)

/-! ### One token -/

/-- A token that is one character wide. -/
def sign (t : Token) (s : Layout) : Layout := { s with place := s.place.next }.push t

/-- The end of all blocks, before something that stands outside them. -/
def leaveBlocks (s : Layout) : Except Failure Layout := do
  let s ← (s.closeBlocks 0).forgetKey
  return { s with keyAllowed := false }

/-- An opening bracket. -/
def opening (t : Token) (s : Layout) : Except Failure Layout := do
  let s ← s.rememberKey
  return { s with depth := s.depth + 1, keyAllowed := true }.sign t

/-- A closing bracket. -/
def closing (t : Token) (s : Layout) : Except Failure Layout := do
  let s ← s.forgetKey
  match s.depth with
  | 0 => .error .malformed
  | depth + 1 => return { s with depth, keyAllowed := false }.sign t

/-- A deeper block if the present column begins one, where blocks can begin. -/
def beginBlock (t : Token) (s : Layout) : Except Failure Layout :=
  if s.inFlow then .ok s
  else if !s.keyAllowed then .error .malformed
  else if s.isDeeper s.place.column then .ok ((s.deepen s.place.column).push t)
  else .ok s

/-- A dash. -/
def dash (s : Layout) : Except Failure Layout := do
  let s ← (← s.beginBlock .sequenceStart).forgetKey
  return { s with keyAllowed := true }.sign .dash

/-- The sign of a key. -/
def keySign (s : Layout) : Except Failure Layout := do
  let s ← (← s.beginBlock .mappingStart).forgetKey
  return { s with keyAllowed := !s.inFlow }.sign .key

/-- The sign of a value.  What stands before it between the same brackets becomes its key. -/
def valueSign (s : Layout) : Except Failure Layout := do
  match s.keys.lookup s.depth with
  | some k =>
    let s := { s with keys := s.keys.filter fun (d, _) => d ≠ s.depth, keyAllowed := false }
    if !s.inFlow && s.isDeeper k.place.column then
      return ((s.deepen k.place.column).insert k.index [.mappingStart, .key]).sign .value
    else return (s.insert k.index [.key]).sign .value
  | none =>
    let s ← (← s.beginBlock .mappingStart).forgetKey
    return { s with keyAllowed := !s.inFlow }.sign .value

/-- Something that may be a key, with the token that it is read as. -/
def content (read : Place → Except Failure (Token × Place)) (s : Layout) :
    Except Failure Layout := do
  let s ← s.rememberKey
  let (t, p) ← read s.place
  return { s with place := p, keyAllowed := false }.push t

/-- A plain scalar; if a line ended after it, a key may follow. -/
def plain (s : Layout) : Except Failure Layout := do
  let s ← s.rememberKey
  let gap := plainText s.inFlow s.margin (s.place.rest.length + 1) ⟨[], false, s.place⟩
  return { s with place := gap.place, keyAllowed := gap.broken }.push
    (.scalar (.text (.ofList gap.text)) true)

/-- A block scalar. -/
def block (fold : Bool) (s : Layout) : Except Failure Layout := do
  let s ← { s with keyAllowed := true }.forgetKey
  let (text, p) ← blockText fold s.margin s.place.next
  return { s with place := p }.push (.scalar (.text (.ofList text)) false)

/-- A name behind a sign. -/
def named (t : String → Token) (p : Place) : Except Failure (Token × Place) := do
  let (name, p) ← anchorName p.next
  return (t name, p)

/-- A scalar between marks. -/
def quotation (double : Bool) (p : Place) : Except Failure (Token × Place) := do
  let (text, p) ← quotedText double (p.rest.length + 1) p.next
  return (.scalar (.ofNumbers text) false, p)

/-- The state after the token that begins with `c` at the present place. -/
def readToken (c : Char) (s : Layout) : Except Failure Layout := do
  let p := s.place
  let after := p.ahead 1
  if c = '%' && p.column = 0 then
    let s ← s.leaveBlocks
    let (t, p) ← directive p
    return { s with place := p }.push t
  else if p.column = 0 && p.atDocumentEdge then
    let s ← s.leaveBlocks
    return { s with place := p.advance 3 }.push (if c = '-' then .documentStart else .documentEnd)
  else if c = '[' then s.opening .openBracket
  else if c = '\x7b' then s.opening .openBrace
  else if c = ']' then s.closing .closeBracket
  else if c = '\x7d' then s.closing .closeBrace
  else if c = ',' then return { ← s.forgetKey with keyAllowed := true }.sign .comma
  else if c = '-' && endsWord after then s.dash
  else if c = '?' && (s.inFlow || endsWord after) then s.keySign
  else if c = ':' && (s.inFlow || endsWord after) then s.valueSign
  else if c = '*' then s.content (named .alias)
  else if c = '&' then s.content (named .anchor)
  else if c = '!' then s.content tagProperty
  else if c = '|' && !s.inFlow then s.block false
  else if c = '>' && !s.inFlow then s.block true
  else if c = '\'' then s.content (quotation false)
  else if c = '"' then s.content (quotation true)
  else if startsPlain s.inFlow c after then s.plain
  else .error .malformed

/-- All tokens of a text, to its end or to where it cannot be read.  The first argument bounds the
number of steps. -/
def run : Nat → Layout → List Token
  | 0, s => (.fault .malformed :: s.tokens).reverse
  | fuel + 1, s =>
    match s.toToken with
    | .error f => (.fault f :: s.tokens).reverse
    | .ok s =>
      match s.place.head? with
      | none =>
        match s.leaveBlocks with
        | .ok s => (.textEnd :: s.tokens).reverse
        | .error f => (.fault f :: s.tokens).reverse
      | some c =>
        match s.readToken c with
        | .ok s => run fuel s
        | .error f => (.fault f :: s.tokens).reverse

end Layout

/-- The tokens of a text. -/
def tokens (cs : List Char) : List Token := (Layout.start cs).run (cs.length + 2)

end ContentBlocks.Yaml
