import ContentBlocks.Schema.Issue
import ContentBlocks.Decimal.Shortest
import ContentBlocks.Json.Value
import ContentBlocks.Text.Letter
import ContentBlocks.Text.Numeral

/-!
# Scalars of the wrong kind that still fit

A setting or a field may be written in another kind than its own: a whole number as text, a truth
value as `yes` or `0`.  `Scalar` is what a value is for this purpose, a `Coercion` says which of its
forms are taken for what, and `Coercion.lax` is the usual one.
-/

namespace ContentBlocks.Schema

/-- A value seen as a scalar. -/
inductive Scalar where
  | text (s : String)
  | whole (n : Int)
  | real (x : Float)
  | truth (b : Bool)
  /-- Bytes or numbers of characters that are no text. -/
  | garbled
  | other

/-- A JSON value as a scalar. -/
def Scalar.ofJson : Json → Scalar
  | .str s => .text s
  | .int n => .whole n
  | .float x => .real x
  | .bool b => .truth b
  | _ => .other

/-- A numeral without a fraction of zeros at its end. -/
def withoutZeroFraction (cs : List Char) : List Char :=
  let back := cs.reverse.dropWhile (· == '0')
  match back with
  | '.' :: whole => whole.reverse
  | _ => cs

/-- The value of an ASCII digit. -/
def asciiDigit? (c : Char) : Option Nat := if c.isDigit then some (c.toNat - 48) else none

/-- Whether a numeral is longer than those that are read, its minus sign counted. -/
def isTooLong (negative : Bool) (digits : Nat) : Bool :=
  Text.maxDigits < digits + if negative then 1 else 0

/-- Whether a text begins with a numeral that is too long, whatever follows it.  Zeros and blanks do
not begin one. -/
def beginsTooLong (cs : List Char) : Bool :=
  let negative := cs.head? = some '-'
  let ds := (if negative then cs.tail else cs).takeWhile Char.isDigit
  ds.head? ≠ some '0' && isTooLong negative ds.length

/-- The whole number in a text: blanks around it are allowed, and so are a sign, single low lines
between digits and a fraction of zeros. -/
def wholeOfText (s : String) : Except Problem Int :=
  let trimmed :=
    Text.dropEndWhile Text.isNumeralBlank (s.toList.dropWhile Text.isNumeralBlank)
  let (negative, body) := Text.signed trimmed
  if beginsTooLong s.toList then .error .longWhole
  else match Text.digitRun? asciiDigit? (withoutZeroFraction body) with
    | none => .error .unreadableWhole
    | some ds =>
      let n : Int := Text.ofDigits 10 ds
      if isTooLong negative (ds.dropWhile (· = 0)).length then .error .longWhole
      else .ok (if negative then -n else n)

/-- The bound below which a number with a point is turned into a whole one. -/
def wholeBound : Int := Nat.pow 2 63

/-- The whole number that a number with a point is. -/
def wholeOfReal (x : Float) : Except Problem Int :=
  if !Decimal.isFinite x then .error .notFinite
  else match Decimal.integral? x with
    | some n => if -wholeBound < n ∧ n < wholeBound then .ok n else .error .fractional
    | none => .error .fractional

/-- A scalar taken for a whole number. -/
def Scalar.toWhole : Scalar → Except Problem Int
  | .whole n => .ok n
  | .truth b => .ok (if b then 1 else 0)
  | .real x => wholeOfReal x
  | .text s => wholeOfText s
  | .garbled => .error .unreadableWhole
  | .other => .error .notWhole

/-- The words for true. -/
def yesWords : List String := ["1", "on", "t", "true", "y", "yes"]

/-- The words for false. -/
def noWords : List String := ["0", "off", "f", "false", "n", "no"]

/-- The truth value that a number stands for. -/
def truthOfWhole (n : Int) : Except Problem Bool :=
  if n = 0 then .ok false
  else if n = 1 then .ok true
  else if -wholeBound ≤ n ∧ n < wholeBound then .error .unreadableTruth
  else .error .notTruth

/-- A scalar taken for a truth value. -/
def Scalar.toTruth : Scalar → Except Problem Bool
  | .truth b => .ok b
  | .whole n => truthOfWhole n
  | .real x =>
    match wholeOfReal x with
    | .ok n => truthOfWhole n
    | .error _ => .error .notTruth
  | .text s =>
    let word := String.ofList (s.toList.map Char.toLower)
    if yesWords.contains word then .ok true
    else if noWords.contains word then .ok false
    else .error .unreadableTruth
  | .garbled => .error .unreadableTruth
  | .other => .error .notTruth

/-- A scalar taken for a text; nothing else is turned into one. -/
def Scalar.toText : Scalar → Except Problem String
  | .text s => .ok s
  | .garbled => .error .notUnicode
  | _ => .error .notText

/-- How scalars are taken for texts, whole numbers and truth values. -/
structure Coercion where
  text : Scalar → Except Problem String
  whole : Scalar → Except Problem Int
  truth : Scalar → Except Problem Bool

/-- The usual coercion. -/
def Coercion.lax : Coercion := ⟨Scalar.toText, Scalar.toWhole, Scalar.toTruth⟩

/-- A scalar check as a check with places. -/
def Checked.ofScalar {α : Type} : Except Problem α → Checked α
  | .ok a => .ok a
  | .error p => .fail p

end ContentBlocks.Schema
