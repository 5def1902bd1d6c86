import ContentBlocks.Text.Numeral
import ContentBlocks.Yaml.Failure
import ContentBlocks.Yaml.Place

/-!
# Scalars between marks

Scalars between single marks, where a doubled mark stands for one, and between double marks, where a
backslash begins an escape.  In both a line end counts as a space and a run of further ones as that
many line ends.  An escape may name half of a pair, so what is read is numbers.
-/

namespace ContentBlocks.Yaml

/-- What a line end and the blank lines after it count for within a scalar. -/
def folded (first : Char) (blankLines : List Char) : List Char :=
  if first ≠ '\n' then first :: blankLines
  else if blankLines.isEmpty then [' ']
  else blankLines

/-- The blank lines at a place inside a quoted scalar.  The first argument bounds the number of
steps. -/
def quotedBreaks : Nat → Place → Except Failure (List Char × Place)
  | 0, _ => .error .malformed
  | fuel + 1, p =>
    if p.atDocumentEdge then .error .malformed
    else
      let p := p.skip Text.isSpaceOrTab
      match p.lineBreak? with
      | none => .ok ([], p)
      | some (c, p) => do
        let (cs, p) ← quotedBreaks fuel p
        return (c :: cs, p)

/-- What the blanks and line ends at a place inside a quoted scalar count for. -/
def quotedGap (p : Place) : Except Failure (List Char × Place) :=
  let blanks := p.taken Text.isSpaceOrTab
  let p := p.advance blanks.length
  match p.head?, p.lineBreak? with
  | none, _ => .error .malformed
  | some _, none => .ok (blanks, p)
  | some _, some (c, p) => do
    let (cs, p) ← quotedBreaks (p.rest.length + 1) p
    return (folded c cs, p)

/-- The character that an escape of one letter stands for. -/
def shortEscape? : Char → Option Char
  | '0' => some '\x00'
  | 'a' => some '\x07'
  | 'b' => some '\x08'
  | 't' => some '\t'
  | '\t' => some '\t'
  | 'n' => some '\n'
  | 'v' => some '\x0b'
  | 'f' => some '\x0c'
  | 'r' => some '\r'
  | 'e' => some '\x1b'
  | ' ' => some ' '
  | '"' => some '"'
  | '\\' => some '\\'
  | '/' => some '/'
  | 'N' => some '\u0085'
  | '_' => some '\u00A0'
  | 'L' => some '\u2028'
  | 'P' => some '\u2029'
  | _ => none

/-- The number of hexadecimal digits that a letter announces. -/
def escapeWidth? : Char → Option Nat
  | 'x' => some 2
  | 'u' => some 4
  | 'U' => some 8
  | _ => none

/-- The number of a character or of half of a pair. -/
def checkNumber (n : Nat) : Except Failure Nat :=
  if n < 0x110000 then .ok n
  else if n < Nat.pow 2 31 then .error .noCharacter
  else .error .hugeCharacter

/-- The numbers of characters. -/
def numbers (cs : List Char) : List Nat := cs.map Char.toNat

/-- What an escape stands for, from the place after its backslash on. -/
def escaped (p : Place) : Except Failure (List Nat × Place) :=
  match p.rest with
  | [] => .error .malformed
  | c :: cs =>
    match shortEscape? c, escapeWidth? c, p.lineBreak? with
    | some e, _, _ => .ok (numbers [e], p.next)
    | none, some width, _ =>
      match (cs.take width).mapM Text.hexValue? with
      | some ds =>
        if ds.length = width then do
          let e ← checkNumber (Text.ofDigits 16 ds)
          return ([e], p.advance (width + 1))
        else .error .malformed
      | none => .error .malformed
    | none, none, some (_, p) => do
      let (cs, p) ← quotedBreaks (p.rest.length + 1) p
      return (numbers cs, p)
    | none, none, none => .error .malformed

/-- A scalar between marks, from the place after the first mark on.  The first argument bounds the
number of steps. -/
def quotedText (double : Bool) : Nat → Place → Except Failure (List Nat × Place)
  | 0, _ => .error .malformed
  | fuel + 1, p => do
    match p.rest with
    | [] => .error .malformed
    | c :: cs =>
      if !double && c = '\'' && cs.head? = some '\'' then
        let (text, p) ← quotedText double fuel (p.advance 2)
        return (numbers ['\''] ++ text, p)
      else if c = (if double then '"' else '\'') then return ([], p.next)
      else if double && c = '\\' then
        let (piece, p) ← escaped p.next
        let (text, p) ← quotedText double fuel p
        return (piece ++ text, p)
      else if endsWord (some c) then
        let (piece, p) ← quotedGap p
        let (text, p) ← quotedText double fuel p
        return (numbers piece ++ text, p)
      else
        let (text, p) ← quotedText double fuel p.next
        return (numbers [c] ++ text, p)

end ContentBlocks.Yaml
