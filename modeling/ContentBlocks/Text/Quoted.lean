import ContentBlocks.Text.Class

/-!
# Quoted texts

How a message shows a text: between quotation marks, with whatever would not show written as an
escape.  The marks are single ones, unless the text holds a single one and no double one.
-/

namespace ContentBlocks.Text

/-- The digits of a number in a base up to 16, in small letters, most significant first. -/
def digits (base n : Nat) : List Char := Nat.toDigits base n

/-- The hexadecimal digits of a number, filled with zeros up to a width. -/
def hexPadded (width n : Nat) : List Char :=
  let ds := digits 16 n
  List.replicate (width - ds.length) '0' ++ ds

/-- How one character stands between marks of the kind `mark`. -/
def quoteChar (mark c : Char) : List Char :=
  if c = mark || c = '\\' then ['\\', c]
  else if c = '\n' then ['\\', 'n']
  else if c = '\r' then ['\\', 'r']
  else if c = '\t' then ['\\', 't']
  else if isPrintable c then [c]
  else if c.toNat < 0x100 then '\\' :: 'x' :: hexPadded 2 c.toNat
  else if c.toNat < 0x10000 then '\\' :: 'u' :: hexPadded 4 c.toNat
  else '\\' :: 'U' :: hexPadded 8 c.toNat

/-- The mark that a text is put between. -/
def quoteMark (cs : List Char) : Char :=
  if cs.contains '\'' && !cs.contains '"' then '"' else '\''

/-- A text as messages show it. -/
def quoted (s : String) : String :=
  let mark := quoteMark s.toList
  String.ofList (mark :: s.toList.flatMap (quoteChar mark) ++ [mark])

/-- What stands in a message for a cause whose own words are not shown. -/
def withheld : String := "<detail>"

end ContentBlocks.Text
