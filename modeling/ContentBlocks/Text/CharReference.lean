import ContentBlocks.Text.CharNames

/-!
# Character references

A character may be written by its name or its number, between an ampersand and a semicolon.  In
addresses and titles such references and the escapes of punctuation are resolved together
(`unescape`); a reference that stands for nothing is left as it was written.
-/

namespace ContentBlocks.Text

/-- Whether a number may stand for a character: it is no surrogate, no noncharacter and no control
other than tab, line end, form feed and carriage return. -/
def isCharNumber (n : Nat) : Bool :=
  !(0xD800 ≤ n && n ≤ 0xDFFF) && !(0xFDD0 ≤ n && n ≤ 0xFDEF) && n % 0x10000 != 0xFFFF &&
    n % 0x10000 != 0xFFFE && !(n ≤ 8) && n != 0x0B && !(0x0E ≤ n && n ≤ 0x1F) &&
    !(0x7F ≤ n && n ≤ 0x9F) && n ≤ 0x10FFFF

/-- The number in a numeric reference, which follows a number sign: decimal digits, or an `x` and
hexadecimal digits, up to a number of them. -/
def referenceNumber? (maxDecimal maxHex : Nat) : List Char → Option Nat
  | x :: ds =>
    if x = 'x' || x = 'X' then
      if !ds.isEmpty && ds.length ≤ maxHex then (ds.mapM hexValue?).map (ofDigits 16) else none
    else if (x :: ds).all Char.isDigit && (x :: ds).length ≤ maxDecimal then
      some (ofDigits 10 ((x :: ds).map fun c => c.toNat - 48))
    else none
  | [] => none

/-- A letter or digit of ASCII. -/
def isAsciiAlphanumeric (c : Char) : Bool := c.isAlphanum

/-- The name between an ampersand, which is gone already, and a semicolon, and what follows. -/
def referenceBody? (cs : List Char) : Option (List Char × List Char) :=
  match cs with
  | first :: rest =>
    let tail := rest.takeWhile isAsciiAlphanumeric
    match rest.dropWhile isAsciiAlphanumeric with
    | ';' :: after =>
      if (isAsciiLetter first || first = '#') && 1 ≤ tail.length && tail.length ≤ 31 then
        some (first :: tail, after)
      else none
    | _ => none
  | [] => none

/-- What the name of a reference in an address or title stands for. -/
def referenceValue? (name : List Char) : Option (List Char) :=
  match name with
  | '#' :: ds =>
    (referenceNumber? 8 8 ds).bind fun n => if isCharNumber n then some [Char.ofNat n] else none
  | _ => charsOfName? name

/-- A text with its escapes and references resolved.  The first argument bounds the number of
steps. -/
def unescapeAux : Nat → List Char → List Char
  | 0, cs => cs
  | _, [] => []
  | fuel + 1, '\\' :: c :: cs =>
    if isAsciiPunctuation c then c :: unescapeAux fuel cs else '\\' :: unescapeAux fuel (c :: cs)
  | fuel + 1, '&' :: cs =>
    match referenceBody? cs with
    | some (name, after) =>
      match referenceValue? name with
      | some value => value ++ unescapeAux fuel after
      | none => '&' :: unescapeAux fuel cs
    | none => '&' :: unescapeAux fuel cs
  | fuel + 1, c :: cs => c :: unescapeAux fuel cs

/-- A text with its escapes and references resolved. -/
def unescape (cs : List Char) : List Char := unescapeAux (cs.length + 1) cs

/-- The character that a number stands for in running text. -/
def charOfNumber (n : Nat) : Char := if isCharNumber n then Char.ofNat n else '\uFFFD'

/-- A reference at the start of running text, the ampersand included: what it stands for, and what
follows it. -/
def reference? : List Char → Option (List Char × List Char)
  | '&' :: '#' :: cs =>
    let body := cs.takeWhile isAsciiAlphanumeric
    match cs.dropWhile isAsciiAlphanumeric with
    | ';' :: after => (referenceNumber? 7 6 body).map fun n => ([charOfNumber n], after)
    | _ => none
  | '&' :: cs =>
    match referenceBody? cs with
    | some (name, after) => (charsOfName? name).map (·, after)
    | none => none
  | _ => none

end ContentBlocks.Text
