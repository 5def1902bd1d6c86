import ContentBlocks.Text.ClassTable

/-!
# Classes of characters

Tests on single characters, and the cutting of texts at blanks.  Texts are lists of characters here:
every rule of the library that looks inside a text is a recursion on that list.

A *blank* is any of the 29 characters that Unicode treats as space or as a line or paragraph end.
It is a wider class than the space and tab of a Markdown line (`isSpaceOrTab`).
-/

namespace ContentBlocks.Text

/-- Membership in an ascending list of closed ranges. -/
def inRanges : List (Nat × Nat) → Nat → Bool
  | [], _ => false
  | (first, last) :: rest, n =>
    if n < first then false else if n ≤ last then true else inRanges rest n

/-- The white space of Unicode, together with the four information separators. -/
def isBlank (c : Char) : Bool :=
  let n := c.toNat
  (9 ≤ n && n ≤ 13) || (28 ≤ n && n ≤ 32) || n == 0x85 || n == 0xA0 || n == 0x1680 ||
    (0x2000 ≤ n && n ≤ 0x200A) || n == 0x2028 || n == 0x2029 || n == 0x202F || n == 0x205F ||
    n == 0x3000

/-- The two characters that indent a line of Markdown. -/
def isSpaceOrTab (c : Char) : Bool := c == ' ' || c == '\t'

/-- What a word is made of: letters, numbers and the low line. -/
def isWord (c : Char) : Bool := inRanges wordRanges c.toNat

/-- Characters that a quotation shows as themselves. -/
def isPrintable (c : Char) : Bool := inRanges printableRanges c.toNat

/-- The punctuation of ASCII, its symbols included. -/
def isAsciiPunctuation (c : Char) : Bool :=
  let n := c.toNat
  (33 ≤ n && n ≤ 47) || (58 ≤ n && n ≤ 64) || (91 ≤ n && n ≤ 96) || (123 ≤ n && n ≤ 126)

/-- Punctuation of any script. -/
def isPunctuation (c : Char) : Bool :=
  isAsciiPunctuation c || inRanges punctuationRanges c.toNat

/-- A letter of ASCII. -/
def isAsciiLetter (c : Char) : Bool := c.isAlpha

/-- The value of a decimal digit of any script. -/
def digitValue? (c : Char) : Option Nat :=
  (digitZeros.find? fun z => z ≤ c.toNat && c.toNat ≤ z + 9).map (c.toNat - ·)

/-- The value of a hexadecimal digit. -/
def hexValue? (c : Char) : Option Nat :=
  let n := c.toNat
  if 48 ≤ n && n ≤ 57 then some (n - 48)
  else if 97 ≤ n && n ≤ 102 then some (n - 87)
  else if 65 ≤ n && n ≤ 70 then some (n - 55)
  else none

/-! ### Cutting -/

/-- A text without the blanks it begins with. -/
def dropBlanks (cs : List Char) : List Char := cs.dropWhile isBlank

/-- A text without the characters at its end that satisfy `p`. -/
def dropEndWhile (p : Char → Bool) (cs : List Char) : List Char := (cs.reverse.dropWhile p).reverse

/-- A text without the blanks at its two ends. -/
def strip (cs : List Char) : List Char := dropEndWhile isBlank (dropBlanks cs)

/-- Whether a text is empty or blanks only. -/
def allBlank (cs : List Char) : Bool := cs.all isBlank

/-- The pieces between the occurrences of a separating character; there is always at least one. -/
def splitAt (sep : Char) : List Char → List (List Char)
  | [] => [[]]
  | c :: cs =>
    if c = sep then [] :: splitAt sep cs
    else match splitAt sep cs with
      | [] => [[c]]
      | piece :: rest => (c :: piece) :: rest

/-- What is left of a text that begins with `start`. -/
def after? : List Char → List Char → Option (List Char)
  | [], cs => some cs
  | _ :: _, [] => none
  | s :: start, c :: cs => if s = c then after? start cs else none

/-- Whether `part` occurs somewhere in a text. -/
def occursIn (part : List Char) : List Char → Bool
  | [] => part.isEmpty
  | c :: cs => (after? part (c :: cs)).isSome || occursIn part cs

end ContentBlocks.Text
