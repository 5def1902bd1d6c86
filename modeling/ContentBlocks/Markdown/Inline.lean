import ContentBlocks.Markdown.Autolink
import ContentBlocks.Markdown.Definition
import ContentBlocks.Markdown.Emphasis
import ContentBlocks.Markdown.Html
import ContentBlocks.Markdown.Preset

/-!
# The text of a block

The text of a paragraph, heading or cell is read from left to right.  What a character begins
decides how far the reader goes; a character that begins nothing is text.  To find the end of a
link's label the text is passed over in the same way without being read (`skipToken`).

Passing over is bounded by the nesting that a dialect allows, and what it finds at a place is
remembered for the whole text, also where another end of the text or another depth would have led to
something else.

## Main definitions

* `skipToken`: the place after what stands at a place.
* `findLink`: the link or image at a place.
* `readInline`: the nodes of a text.
-/

namespace ContentBlocks.Markdown

open Text

/-- A text, with what its reading depends on. -/
structure Passage where
  chars : Array Char
  preset : Preset
  definitions : List Definition

/-- What is remembered of a text while it is read. -/
structure Memo where
  /-- The places after what was passed over, by place. -/
  skipped : List (Nat × Nat)
  /-- For lengths of runs of backticks, a place after which none has that length. -/
  runs : List (Nat × Nat)
  /-- Whether all runs of backticks were seen. -/
  allRuns : Bool

namespace Passage

/-- The character at a place. -/
def at? (p : Passage) (i : Nat) : Option Char := p.chars[i]?

/-- Whether a character stands at a place before an end. -/
def hasAt (p : Passage) (stop i : Nat) (c : Char) : Bool := i < stop && p.at? i == some c

/-- The characters between two places. -/
def slice (p : Passage) (start stop : Nat) : List Char := (p.chars.extract start stop).toList

/-- The first place from `i` on whose character does not satisfy a test, at most `count` places
on. -/
def skipUpTo (p : Passage) (test : Char → Bool) : Nat → Nat → Nat
  | 0, i => i
  | count + 1, i => if (p.at? i).any test then p.skipUpTo test count (i + 1) else i

/-- The first place from `i` on, before `stop`, whose character does not satisfy a test. -/
def skipWhile (p : Passage) (test : Char → Bool) (stop i : Nat) : Nat :=
  p.skipUpTo test (stop - i) i

end Passage

/-- Whether a character ends plain text. -/
def isTextEnd (c : Char) : Bool :=
  "\n!#$%&*+-:<=>@[\\]^_\x60\x7b\x7d~".toList.contains c

/-! ### Code spans -/

/-- The closing run of backticks for an opening one of some length, from `i` on: its place and what
is remembered.  The first number bounds the steps. -/
def findRun (p : Passage) (stop length : Nat) : Nat → Nat → Memo → Option (Nat × Nat) × Memo
  | 0, _, memo => (none, { memo with allRuns := true })
  | fuel + 1, i, memo =>
    let start := p.skipWhile (· ≠ '\x60') p.chars.size i
    if start ≥ p.chars.size then (none, { memo with allRuns := true })
    else
      let next := max (start + 1) (p.skipWhile (· == '\x60') stop (start + 1))
      if next - start = length then (some (start, next), memo)
      else findRun p stop length fuel next { memo with runs := (next - start, start) :: memo.runs }

/-- The content of a code span: line ends are spaces, and one space at either end is dropped, unless
everything is blank. -/
def codeContent (cs : List Char) : List Char :=
  let cs := cs.map fun c => if c = '\n' then ' ' else c
  if cs.head? = some ' ' && cs.getLast? = some ' ' && !allBlank cs then (cs.drop 1).dropLast
  else cs

/-- What a run of backticks begins: the place after it, and the content if it is a code span. -/
def codeSpan (p : Passage) (stop i : Nat) (memo : Memo) : (Nat × Option (List Char)) × Memo :=
  let after := p.skipWhile (· == '\x60') stop i
  let length := after - i
  if memo.allRuns && (memo.runs.lookup length).getD 0 ≤ i then ((after, none), memo)
  else match findRun p stop length (p.chars.size + 1) after memo with
    | (some (start, next), memo) => ((next, some (codeContent (p.slice after start))), memo)
    | (none, memo) => ((after, none), memo)

/-! ### Links -/

/-- A link or image: where its label is, what it points to and where it ends. -/
structure Link where
  labelStart : Nat
  labelEnd : Nat
  href : List Char
  title : List Char
  next : Nat

/-- How a text is passed over from a place. -/
abbrev Skip := Nat → Memo → Nat × Memo

/-- The end of a label, with `level` brackets open before `i`.  A strict label holds no other link.
The first number bounds the steps. -/
def labelEnd? (p : Passage) (skip : Skip) (stop : Nat) (strict : Bool) :
    Nat → Nat → Nat → Memo → Option Nat × Memo
  | 0, _, _, memo => (none, memo)
  | fuel + 1, level, i, memo =>
    if i < stop then
      let c := p.at? i
      if c == some ']' && level = 1 then (some i, memo)
      else
        let level := if c == some ']' then level - 1 else level
        let (next, memo) := skip i memo
        if c == some '[' then
          if next = i + 1 then labelEnd? p skip stop strict fuel (level + 1) next memo
          else if strict then (none, memo)
          else labelEnd? p skip stop strict fuel level next memo
        else labelEnd? p skip stop strict fuel level next memo
    else (none, memo)

/-- The end of the label whose opening bracket stands before a place. -/
def labelFrom? (p : Passage) (skip : Skip) (stop : Nat) (strict : Bool) (i : Nat) (memo : Memo) :
    Option Nat × Memo :=
  labelEnd? p skip stop strict (stop + 1 - i) 1 i memo

/-- The destination and the title in the parentheses of a link, as far as they can be read, and what
follows. -/
def target (cs : List Char) : List Char × List Char × List Char :=
  match destination? cs with
  | none => ([], [], cs)
  | some (destination, after) =>
    let href := Address.normalize destination
    if !Address.isSafe href then ([], [], cs)
    else
      let rest := skipGap after
      if rest.isEmpty || rest.length = after.length then (href, [], rest)
      else match title? rest with
        | some (title, rest) => (href, title, skipGap rest)
        | none => (href, [], rest)

/-- The link by definition whose label was found, where a second label may stand at `i`. -/
def referredLink (p : Passage) (skip : Skip) (stop labelStart labelEnd i : Nat) (memo : Memo) :
    Option Link × Memo :=
  if p.definitions.isEmpty then (none, memo)
  else
    let (second, memo) :=
      if p.hasAt stop i '[' then labelFrom? p skip stop false (i + 1) memo else (none, memo)
    let label := match second with
      | some e => p.slice (i + 1) e
      | none => []
    let label := if label.isEmpty then p.slice labelStart labelEnd else label
    let next := match second with
      | some e => e + 1
      | none => labelEnd + 1
    ((Definition.find? p.definitions label).map fun d =>
      ⟨labelStart, labelEnd, d.href, d.title, next⟩, memo)

/-- The link or image whose opening bracket stands before a place.  Where the parentheses after a
label hold no destination, a link may still be one by definition, and an image is none. -/
def findLink (p : Passage) (skip : Skip) (stop : Nat) (image : Bool) (labelStart : Nat)
    (memo : Memo) : Option Link × Memo :=
  match labelFrom? p skip stop (!image) labelStart memo with
  | (none, memo) => (none, memo)
  | (some labelEnd, memo) =>
    if p.hasAt stop (labelEnd + 1) '(' then
      let inner := skipGap (p.slice (labelEnd + 2) stop)
      if inner.isEmpty then (none, memo)
      else
        let (href, title, rest) := target inner
        let next := stop - rest.length + 1
        if rest.head? = some ')' then (some ⟨labelStart, labelEnd, href, title, next⟩, memo)
        else if image then (none, memo)
        else referredLink p skip stop labelStart labelEnd next memo
    else referredLink p skip stop labelStart labelEnd (labelEnd + 1) memo

/-! ### Passing over -/

/-- The end of an escape, and whether it is a line break. -/
def escapeEnd? (p : Passage) (stop i : Nat) : Option (Nat × Bool) :=
  if i + 1 < stop then
    if p.at? (i + 1) == some '\n' then some (p.skipWhile isSpaceOrTab stop (i + 2), true)
    else some (i + 2, false)
  else none

/-- The address that an angle bracket begins: the place after it, and its text. -/
def autolink? (p : Passage) (stop i : Nat) : Option (Nat × List Char) := do
  let url ← bracketed? (p.slice (i + 1) stop)
  let full ← if isAbsolute url then some url
    else if isMail url then some ("mailto:".toList ++ url) else none
  if Address.isSafe (Address.normalize full) then some (i + url.length + 2, Address.display url)
  else none

/-- The end of the HTML that an angle bracket begins. -/
def htmlEnd? (p : Passage) (stop i : Nat) : Option Nat :=
  if p.preset.html && i + 2 < stop then
    (Html.afterConstruct? (p.slice i p.chars.size)).map fun rest => p.chars.size - rest.length
  else none

/-- The place after the image sign and bracket at a place. -/
def imageLabel? (p : Passage) (stop i : Nat) : Option Nat :=
  if i + 1 < stop && p.at? (i + 1) != some '[' then none else some (i + 2)

/-- The end of the reference that an ampersand begins, and what it stands for. -/
def referenceEnd? (p : Passage) (i : Nat) : Option (Nat × List Char) :=
  (reference? (p.slice i p.chars.size)).map fun (value, rest) =>
    (p.chars.size - rest.length, value)

/-- The end of what a character begins, if it begins anything. -/
def tokenEnd? (p : Passage) (skip : Skip) (stop i : Nat) (memo : Memo) : Option Nat × Memo :=
  match p.at? i with
  | none => (none, memo)
  | some c =>
    if !isTextEnd c then (some (p.skipWhile (!isTextEnd ·) stop i), memo)
    else if c = '\n' then (some (p.skipWhile isSpaceOrTab stop (i + 1)), memo)
    else if c = '\\' then ((escapeEnd? p stop i).map (·.1), memo)
    else if c = '\x60' then
      let ((next, _), memo) := codeSpan p stop i memo
      (some next, memo)
    else if c = '[' then
      let (found, memo) := findLink p skip stop false (i + 1) memo
      (found.map (·.next), memo)
    else if c = '!' then
      match imageLabel? p stop i with
      | some start =>
        let (found, memo) := findLink p skip stop true start memo
        (found.map (·.next), memo)
      | none => (none, memo)
    else if c = '<' then ((autolink? p stop i).map (·.1) <|> htmlEnd? p stop i, memo)
    else if c = '&' then ((referenceEnd? p i).map (·.1), memo)
    else (none, memo)

/-- The place after what stands at a place, with a number of levels of nesting left.  Where none is
left, everything is passed over. -/
def skipToken (p : Passage) (stop : Nat) : Nat → Skip
  | depth, i, memo =>
    match memo.skipped.lookup i with
    | some next => (next, memo)
    | none =>
      let (next, memo) := match depth with
        | 0 => (stop + 1, memo)
        | depth + 1 =>
          let (found, memo) := tokenEnd? p (skipToken p stop depth) stop i memo
          (found.getD (i + 1), memo)
      (next, { memo with skipped := (i, next) :: memo.skipped })

/-! ### Reading -/

/-- A text that is read up to a place. -/
structure Reading where
  memo : Memo
  /-- Plain text, backwards, that is no piece yet. -/
  pending : List Char
  pieces : Array Piece
  delimiters : Array Delimiter

namespace Reading

/-- The start of a reading. -/
def start (memo : Memo) : Reading := ⟨memo, [], #[], #[]⟩

/-- The pending text made a piece. -/
def flush (r : Reading) : Reading :=
  if r.pending.isEmpty then r
  else { r with pending := [], pieces := r.pieces.push (.text (.ofList r.pending.reverse)) }

/-- A further piece. -/
def push (r : Reading) (x : Piece) : Reading :=
  let r := r.flush
  { r with pieces := r.pieces.push x }

/-- A further node. -/
def node (r : Reading) (kind : NodeKind) (content : String) (children : List Node) : Reading :=
  r.push (.leaf (.plain kind content children))

/-- Further plain text. -/
def append (r : Reading) (cs : List Char) : Reading := { r with pending := cs.reverse ++ r.pending }

/-- A further delimiter. -/
def delimit (r : Reading) (mark : Char) (text : String) (run : Nat) (flanks : Flanks) : Reading :=
  let r := r.push (.text text)
  { r with
    delimiters :=
      r.delimiters.push ⟨mark, run, r.pieces.size - 1, flanks.opens, flanks.closes, none⟩ }

/-- A line end: a hard one after two spaces.  Spaces before it are dropped. -/
def lineEnd (r : Reading) : Reading :=
  match r.pending with
  | ' ' :: ' ' :: rest =>
    { r with pending := rest.dropWhile (· == ' ') }.node .hardBreak "" []
  | ' ' :: rest => { r with pending := rest }.node .softBreak "" []
  | _ => r.node .softBreak "" []

/-- The nodes of what was read. -/
def nodes (r : Reading) : List Node :=
  let r := r.flush
  resolve r.pieces r.delimiters

end Reading

/-- The run of delimiters at a place: its length, and what it can do. -/
def scanRun (p : Passage) (stop i : Nat) (c : Char) : Nat × Flanks :=
  let after := p.skipWhile (· == c) stop i
  let before := if i = 0 then ' ' else (p.at? (i - 1)).getD ' '
  let next := if after < stop then (p.at? after).getD ' ' else ' '
  (after - i, .of before next (c != '_'))

/-- A reading with a run of delimiters, if there is one. -/
def readRun? (p : Passage) (stop i : Nat) (c : Char) (r : Reading) : Option (Nat × Reading) :=
  let (length, flanks) := scanRun p stop i c
  if c = '~' then
    if !p.preset.strikes || length < 2 then none
    else
      let r := if length % 2 = 1 then r.push (.text "~") else r
      some (i + length,
        (List.range (length / 2)).foldl (fun r _ => r.delimit c "~~" 0 flanks) r)
  else
    some (i + length,
      (List.range length).foldl (fun r _ => r.delimit c (.ofList [c]) length flanks) r)

/-- The attributes of an image. -/
def imageAttrs (l : Link) : List (String × Json) :=
  ("src", .str (.ofList l.href)) :: ("alt", .str "") ::
    if l.title.isEmpty then [] else [("title", .str (.ofList l.title))]

/-- A reading after what a character begins, and the place after it; nothing if the character begins
nothing.  `inner` reads the text of a link. -/
def readToken? (p : Passage) (skip : Skip) (inner : Nat → Nat → Memo → Reading) (stop i : Nat)
    (c : Char) (r : Reading) : Option (Nat × Reading) × Memo :=
  if !isTextEnd c then
    let next := p.skipWhile (!isTextEnd ·) stop i
    (some (next, r.append (p.slice i next)), r.memo)
  else if !p.preset.markup then (none, r.memo)
  else if c = '\n' then (some (p.skipWhile isSpaceOrTab stop (i + 1), r.lineEnd), r.memo)
  else if c = '\\' then
    ((escapeEnd? p stop i).map fun (next, isBreak) =>
      (next,
        if isBreak then r.node .hardBreak "" []
        else
          let d := (p.at? (i + 1)).getD ' '
          r.node .text (.ofList (if isAsciiPunctuation d then [d] else ['\\', d])) []),
      r.memo)
  else if c = '\x60' then
    let ((next, content), memo) := codeSpan p stop i r.memo
    let r := { r with memo }
    (some (next, match content with
      | some cs => r.node .codeSpan (.ofList cs) []
      | none => r.append (p.slice i next)), memo)
  else if c = '*' || c = '_' || c = '~' then (readRun? p stop i c r, r.memo)
  else if c = '[' then
    match findLink p skip stop false (i + 1) r.memo with
    | (some l, memo) =>
      let content := inner l.labelEnd l.labelStart memo
      (some (l.next, { r with memo := content.memo }.node .link "" content.nodes), content.memo)
    | (none, memo) => (none, memo)
  else if c = '!' then
    match imageLabel? p stop i with
    | none => (none, r.memo)
    | some start =>
      match findLink p skip stop true start r.memo with
      | (some l, memo) =>
        let content := String.ofList (p.slice l.labelStart l.labelEnd)
        let image : Node := ⟨.image, "img", content, "", imageAttrs l, []⟩
        (some (l.next, { r with memo }.push (.leaf image)), memo)
      | (none, memo) => (none, memo)
  else if c = '<' then
    match autolink? p stop i with
    | some (next, text) =>
      (some (next, r.node .link "" [.plain .text (.ofList text) []]), r.memo)
    | none =>
      ((htmlEnd? p stop i).map fun next =>
        (next, r.node (.other "html_inline") (.ofList (p.slice i next)) []), r.memo)
  else if c = '&' then
    ((referenceEnd? p i).map fun (next, value) => (next, r.node .text (.ofList value) []), r.memo)
  else (none, r.memo)

/-- A reading from a place up to an end.  The first number bounds the steps. -/
def readLine (p : Passage) (skip : Skip) (inner : Nat → Nat → Memo → Reading) (stop : Nat) :
    Nat → Nat → Reading → Reading
  | 0, _, r => r
  | fuel + 1, i, r =>
    if i < stop then
      match p.at? i with
      | none => r
      | some c =>
        match readToken? p skip inner stop i c r with
        | (some (next, r), _) => readLine p skip inner stop fuel next r
        | (none, memo) =>
          readLine p skip inner stop fuel (i + 1) { r.append [c] with memo }
    else r

/-- A reading between two places, with a number of levels of nesting left. -/
def readSpan (p : Passage) : Nat → Nat → Nat → Memo → Reading
  | 0, stop, i, memo => (Reading.start memo).append (p.slice i stop)
  | depth + 1, stop, i, memo =>
    readLine p (skipToken p stop (depth + 1)) (readSpan p depth) stop (stop - i + 1) i
      (.start memo)

/-- The nodes of a text. -/
def readInline (preset : Preset) (definitions : List Definition) (cs : List Char) : List Node :=
  let p : Passage := ⟨cs.toArray, preset, definitions⟩
  (readSpan p preset.maxNesting cs.length 0 ⟨[], [], false⟩).nodes

end ContentBlocks.Markdown
