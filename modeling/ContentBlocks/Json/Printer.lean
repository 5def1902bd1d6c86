import ContentBlocks.Json.Value
import ContentBlocks.Decimal.Shortest
import ContentBlocks.Text.Quoted

/-!
# Writing JSON

One printer for all JSON that the library writes.  A `Layout` says whether members stand on lines of
their own, and whether characters outside ASCII are escaped.
-/

namespace ContentBlocks.Json

/-- How JSON is laid out. -/
structure Layout where
  /-- The indentation of each level, and everything on one line without blanks where there is
  none. -/
  indent : Option Nat
  /-- Whether only ASCII is written. -/
  asciiOnly : Bool

/-- The four hexadecimal digits of an escape. -/
def unicodeEscape (n : Nat) : List Char := '\\' :: 'u' :: Text.hexPadded 4 n

/-- How one character stands in a string. -/
def escapeChar (asciiOnly : Bool) (c : Char) : List Char :=
  if c = '"' || c = '\\' then ['\\', c]
  else if c = '\n' then ['\\', 'n']
  else if c = '\r' then ['\\', 'r']
  else if c = '\t' then ['\\', 't']
  else if c = '\x08' then ['\\', 'b']
  else if c = '\x0c' then ['\\', 'f']
  else if c.toNat < 32 then unicodeEscape c.toNat
  else if asciiOnly && 127 ≤ c.toNat then
    if c.toNat = 127 then [c]
    else if c.toNat < 0x10000 then unicodeEscape c.toNat
    else
      let n := c.toNat - 0x10000
      unicodeEscape (0xD800 + n / 1024) ++ unicodeEscape (0xDC00 + n % 1024)
  else [c]

/-- A string with its marks. -/
def writeString (asciiOnly : Bool) (s : String) : String :=
  String.ofList ('"' :: s.toList.flatMap (escapeChar asciiOnly) ++ ['"'])

/-- A number with a point or an exponent; a value that is not finite is written as null. -/
def writeFloat (x : Float) : String :=
  match Decimal.Parts.of x with
  | .finite negative m q => Decimal.documentStyle.writeFinite negative m q
  | _ => "null"

/-- The break before a member or a closing bracket at some depth. -/
def Layout.break (layout : Layout) (depth : Nat) : String :=
  match layout.indent with
  | none => ""
  | some n => String.ofList ('\n' :: List.replicate (n * depth) ' ')

/-- What stands between a name and its value. -/
def Layout.colon (layout : Layout) : String := if layout.indent.isSome then ": " else ":"

mutual

/-- A value at some depth. -/
def writeAt (layout : Layout) (depth : Nat) : Json → String
  | .null => "null"
  | .bool true => "true"
  | .bool false => "false"
  | .int n => toString n
  | .float x => writeFloat x
  | .str s => writeString layout.asciiOnly s
  | .arr [] => "[]"
  | .arr (v :: vs) =>
    "[" ++ layout.break (depth + 1) ++ writeAt layout (depth + 1) v ++
      writeItems layout (depth + 1) vs ++ layout.break depth ++ "]"
  | .obj [] => "\x7b\x7d"
  | .obj ((name, v) :: fields) =>
    "\x7b" ++ layout.break (depth + 1) ++ writeString layout.asciiOnly name ++ layout.colon ++
      writeAt layout (depth + 1) v ++ writeFields layout (depth + 1) fields ++ layout.break depth ++
      "\x7d"

/-- The items after the first one. -/
def writeItems (layout : Layout) (depth : Nat) : List Json → String
  | [] => ""
  | v :: vs => "," ++ layout.break depth ++ writeAt layout depth v ++ writeItems layout depth vs

/-- The fields after the first one. -/
def writeFields (layout : Layout) (depth : Nat) : List (String × Json) → String
  | [] => ""
  | (name, v) :: fields =>
    "," ++ layout.break depth ++ writeString layout.asciiOnly name ++ layout.colon ++
      writeAt layout depth v ++ writeFields layout depth fields

end

/-- The text of a value. -/
def write (layout : Layout) (v : Json) : String := writeAt layout 0 v

end ContentBlocks.Json
