import ContentBlocks.Decimal.Nearest
import ContentBlocks.Json.Value
import ContentBlocks.Text.Class
import ContentBlocks.Text.Numeral

/-!
# Reading JSON

A reader for JSON texts.  Beside the numbers of JSON it takes `NaN`, `Infinity` and `-Infinity`,
which writers of floating-point numbers leave in their output.  A name that occurs twice in an
object keeps its first place and its last value.
-/

namespace ContentBlocks.Json

/-- The blanks between the tokens. -/
def skipSpace (cs : List Char) : List Char :=
  cs.dropWhile fun c => c == ' ' || c == '\n' || c == '\t' || c == '\r'

/-- The value of four hexadecimal digits. -/
def hex4? : List Char → Option (Nat × List Char)
  | a :: b :: c :: d :: rest => do
    let ds ← [a, b, c, d].mapM Text.hexValue?
    return (Text.ofDigits 16 ds, rest)
  | _ => none

/-- The character of a one-letter escape. -/
def shortEscape? : Char → Option Char
  | '"' => some '"'
  | '\\' => some '\\'
  | '/' => some '/'
  | 'b' => some '\x08'
  | 'f' => some '\x0c'
  | 'n' => some '\n'
  | 'r' => some '\r'
  | 't' => some '\t'
  | _ => none

/-- The rest of a string after its opening mark, and what follows the string.  The first argument
bounds the number of steps. -/
def readString? : Nat → List Char → Option (List Char × List Char)
  | 0, _ => none
  | _, [] => none
  | _ + 1, '"' :: rest => some ([], rest)
  | fuel + 1, '\\' :: 'u' :: cs => do
    let (n, rest) ← hex4? cs
    if 0xD800 ≤ n ∧ n < 0xDC00 then
      match rest with
      | '\\' :: 'u' :: cs' =>
        let (low, rest') ← hex4? cs'
        if 0xDC00 ≤ low ∧ low < 0xE000 then
          let (s, after) ← readString? fuel rest'
          return (Char.ofNat (0x10000 + (n - 0xD800) * 1024 + (low - 0xDC00)) :: s, after)
        else none
      | _ => none
    else
      let (s, after) ← readString? fuel rest
      return (Char.ofNat n :: s, after)
  | fuel + 1, '\\' :: c :: cs => do
    let e ← shortEscape? c
    let (s, after) ← readString? fuel cs
    return (e :: s, after)
  | fuel + 1, c :: cs => do
    let (s, after) ← readString? fuel cs
    return (c :: s, after)

/-- The value of a run of ASCII digits. -/
def natOf (cs : List Char) : Nat := Text.ofDigits 10 (cs.map fun c => c.toNat - 48)

/-- The parts of a numeral: sign, whole digits, digits after a point, exponent. -/
def readNumber? (cs : List Char) : Option (Json × List Char) :=
  let (negative, cs) := match cs with
    | '-' :: rest => (true, rest)
    | _ => (false, cs)
  let whole := cs.takeWhile Char.isDigit
  let cs := cs.dropWhile Char.isDigit
  if whole.isEmpty then none
  else
    let (fraction, cs) := match cs with
      | '.' :: rest => (rest.takeWhile Char.isDigit, rest.dropWhile Char.isDigit)
      | _ => ([], cs)
    let (exponent, cs) := match cs with
      | e :: rest =>
        if e = 'e' || e = 'E' then
          let (down, rest) := Text.signed rest
          let ds := rest.takeWhile Char.isDigit
          (some (if down then -(natOf ds : Int) else (natOf ds : Int)),
            rest.dropWhile Char.isDigit)
        else (none, cs)
      | [] => (none, cs)
    if fraction.isEmpty && exponent.isNone then
      let n : Int := natOf whole
      some (.int (if negative then -n else n), cs)
    else
      let e : Int := exponent.getD 0 - fraction.length
      some (.float (Decimal.ofDecimal negative (natOf (whole ++ fraction)) e), cs)

/-- The words that stand for values. -/
def words : List (String × Json) :=
  [("null", .null), ("true", .bool true), ("false", .bool false), ("NaN", .float (0 / 0)),
   ("Infinity", .float (1 / 0)), ("-Infinity", .float (-1 / 0))]

/-- A word and what follows it. -/
def readWord? (cs : List Char) : Option (Json × List Char) :=
  words.findSome? fun (word, v) => (Text.after? word.toList cs).map (v, ·)

mutual

/-- A value and what follows it.  The first argument bounds the number of steps. -/
def readValue? : Nat → List Char → Option (Json × List Char)
  | 0, _ => none
  | fuel + 1, cs =>
    match skipSpace cs with
    | '"' :: rest => (readString? rest.length.succ rest).map fun (s, r) => (.str (.ofList s), r)
    | '[' :: rest =>
      match skipSpace rest with
      | ']' :: after => some (.arr [], after)
      | _ => (readItems? fuel rest).map fun (vs, r) => (.arr vs, r)
    | '{' :: rest =>
      match skipSpace rest with
      | '}' :: after => some (.obj [], after)
      | _ => (readFields? fuel [] rest).map fun (fs, r) => (.obj fs, r)
    | cs => readWord? cs <|> readNumber? cs

/-- The items of an array up to its closing bracket. -/
def readItems? : Nat → List Char → Option (List Json × List Char)
  | 0, _ => none
  | fuel + 1, cs => do
    let (v, rest) ← readValue? fuel cs
    match skipSpace rest with
    | ',' :: more =>
      let (vs, after) ← readItems? fuel more
      return (v :: vs, after)
    | ']' :: after => return ([v], after)
    | _ => none

/-- The fields of an object up to its closing brace, put to those already read. -/
def readFields? : Nat → List (String × Json) → List Char →
    Option (List (String × Json) × List Char)
  | 0, _, _ => none
  | fuel + 1, fields, cs =>
    match skipSpace cs with
    | '"' :: rest => do
      let (name, rest) ← readString? rest.length.succ rest
      match skipSpace rest with
      | ':' :: rest =>
        let (v, rest) ← readValue? fuel rest
        let fields := put (.ofList name) v fields
        match skipSpace rest with
        | ',' :: more => readFields? fuel fields more
        | '}' :: after => return (fields, after)
        | _ => none
      | _ => none
    | _ => none

end

/-- The value that a whole text stands for. -/
def read? (s : String) : Option Json :=
  let cs := s.toList
  match readValue? (2 * cs.length + 2) cs with
  | some (v, rest) => if (skipSpace rest).isEmpty then some v else none
  | none => none

end ContentBlocks.Json
