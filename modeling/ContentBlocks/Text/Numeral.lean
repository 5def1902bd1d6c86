import ContentBlocks.Text.Class

/-!
# Numerals

The reading of whole numbers from texts that people wrote: blanks around the numeral, a sign, and
single low lines between digits are allowed, and the digits may be those of any script.  Decimal
numerals of more than 4300 digits are neither read nor written.
-/

namespace ContentBlocks.Text

/-- The value of digits read from the left, most significant first. -/
def ofDigits (base : Nat) (ds : List Nat) : Nat := ds.foldl (fun n d => n * base + d) 0

/-- The digits of a text of digits with single low lines between them; `none` for any other text.
At least one digit is needed. -/
def digitRun? (value? : Char → Option Nat) : List Char → Option (List Nat)
  | [] => none
  | [c] => (value? c).map ([·])
  | c :: '_' :: cs => do
    let d ← value? c
    let ds ← digitRun? value? cs
    return d :: ds
  | c :: cs => do
    let d ← value? c
    let ds ← digitRun? value? cs
    return d :: ds

/-- Blanks that may stand around a numeral: all but the four information separators. -/
def isNumeralBlank (c : Char) : Bool := isBlank c && !(28 ≤ c.toNat && c.toNat ≤ 31)

/-- The longest decimal numeral that is read or written, in digits. -/
def maxDigits : Nat := 4300

/-- Whether a whole number is short enough to be written in decimal digits. -/
def isWritable (n : Int) : Bool := n.natAbs < Nat.pow 10 maxDigits

/-- The decimal numeral of a whole number, if it can be written. -/
def decimal? (n : Int) : Option String := if isWritable n then some (toString n) else none

/-- The sign of a numeral and what follows it. -/
def signed : List Char → Bool × List Char
  | '-' :: cs => (true, cs)
  | '+' :: cs => (false, cs)
  | cs => (false, cs)

/-- What comes of reading a numeral. -/
inductive Numeral where
  | whole (n : Int)
  /-- There are more digits than are read. -/
  | tooLong (digits : Nat)
  | unreadable

/-- The value of a digit in a base up to 16, of any script below ten. -/
def digitIn? (base : Nat) (c : Char) : Option Nat :=
  (digitValue? c <|> hexValue? c).bind fun d => if d < base then some d else none

/-- A numeral without the letter of its base at its start, and the low line after it. -/
def withoutBaseMark (base : Nat) : List Char → List Char
  | '0' :: c :: cs =>
    let mark := c.toLower
    if (base = 2 && mark = 'b') || (base = 8 && mark = 'o') || (base = 16 && mark = 'x') then
      match cs with
      | '_' :: ds => ds
      | _ => cs
    else '0' :: c :: cs
  | cs => cs

/-- The whole number that a text is the numeral of in a base. -/
def integerIn? (base : Nat) (cs : List Char) : Numeral :=
  let (negative, body) := signed (dropEndWhile isNumeralBlank (cs.dropWhile isNumeralBlank))
  match digitRun? (digitIn? base) (withoutBaseMark base body) with
  | some ds =>
    if base = 10 && ds.length > maxDigits then .tooLong ds.length
    else
      let n : Int := ofDigits base ds
      .whole (if negative then -n else n)
  | none => .unreadable

/-- The whole number that a text is the decimal numeral of. -/
def integer? (cs : List Char) : Option Int :=
  match integerIn? 10 cs with
  | .whole n => some n
  | _ => none

end ContentBlocks.Text
