import ContentBlocks.Text.Numeral
import ContentBlocks.Text.Quoted
import ContentBlocks.Text.Utf8

/-!
# Percent codes

Addresses are written in a part of ASCII; every other character stands as the percent codes of its
UTF-8 bytes.  Encoding leaves codes that are there already as they are.  Decoding goes the other way
for display; bytes that are no UTF-8 become replacement characters, and codes of characters that
mean something in an address stay.
-/

namespace ContentBlocks.Address

open Text

/-- The percent code of a byte. -/
def percentCode (byte : Nat) : List Char := '%' :: (hexPadded 2 byte).map Char.toUpper

/-- The punctuation that an address may hold. -/
def plainPunctuation : List Char := ";/?:@&=+$,-_.!~*'()#".toList

/-- Whether a character stands for itself in an address. -/
def isPlain (c : Char) : Bool := c.isAlphanum || plainPunctuation.contains c

/-- Whether a text goes on with two hexadecimal digits. -/
def startsHex2 : List Char → Bool
  | a :: b :: _ => (hexValue? a).isSome && (hexValue? b).isSome
  | _ => false

/-- A text as it stands in an address. -/
def encode : List Char → List Char
  | [] => []
  | c :: cs =>
    if c = '%' && startsHex2 cs then c :: encode cs
    else if isPlain c then c :: encode cs
    else (utf8Char c).flatMap percentCode ++ encode cs

/-- The byte of a percent code and what follows it. -/
def codeByte? : List Char → Option (Nat × List Char)
  | '%' :: a :: b :: cs => do return (16 * (← hexValue? a) + (← hexValue? b), cs)
  | _ => none

/-- The bytes of the percent codes that a text begins with, and what follows them.  The first
argument bounds their number. -/
def codeBytes : Nat → List Char → List Nat × List Char
  | 0, cs => ([], cs)
  | fuel + 1, cs =>
    match codeByte? cs with
    | some (b, rest) =>
      let (bs, after) := codeBytes fuel rest
      (b :: bs, after)
    | none => ([], cs)

/-- What a byte below 128 is shown as. -/
def showAscii (b : Nat) : List Char :=
  if ";/?:@&=+$,#%".toList.contains (Char.ofNat b) then percentCode b else [Char.ofNat b]

/-- The number of bytes that a first byte announces. -/
def announced (b : Nat) : Nat :=
  if b / 32 = 6 then 2 else if b / 16 = 14 then 3 else if b / 8 = 30 then 4 else 1

/-- What several bytes of one character are shown as. -/
def showBytes (bs : List Nat) : List Char :=
  match ofUtf8? (bs.map UInt8.ofNat) with
  | some s => s.toList
  | none => List.replicate bs.length '\uFFFD'

/-- What bytes are shown as.  The first argument bounds the number of steps. -/
def showAll : Nat → List Nat → List Char
  | 0, _ => []
  | _, [] => []
  | fuel + 1, b :: bs =>
    if b < 128 then showAscii b ++ showAll fuel bs
    else
      let n := announced b
      let group := b :: bs.take (n - 1)
      if n > 1 && group.length = n && (group.drop 1).all (· / 64 == 2) then
        showBytes group ++ showAll fuel (bs.drop (n - 1))
      else '\uFFFD' :: showAll fuel bs

/-- A text with its percent codes resolved.  The first argument bounds the number of steps. -/
def decodeAux : Nat → List Char → List Char
  | 0, cs => cs
  | _, [] => []
  | fuel + 1, c :: cs =>
    match codeBytes (cs.length + 1) (c :: cs) with
    | ([], _) => c :: decodeAux fuel cs
    | (bs, rest) => showAll bs.length bs ++ decodeAux fuel rest

/-- A text with its percent codes resolved, for display. -/
def decode (cs : List Char) : List Char := decodeAux cs.length cs

end ContentBlocks.Address
