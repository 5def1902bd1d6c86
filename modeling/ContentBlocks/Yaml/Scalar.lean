import ContentBlocks.Calendar.Basic
import ContentBlocks.Decimal.Nearest
import ContentBlocks.Decimal.Shortest
import ContentBlocks.Text.Letter
import ContentBlocks.Text.Numeral
import ContentBlocks.Text.Utf8
import ContentBlocks.Yaml.Failure

/-!
# What a scalar says

A plain scalar without a tag is taken for what it looks like: nothing, a truth value, a number, a
timestamp, or else a text.  `Tag.ofPlain` is that choice.  Once the tag is fixed, whether by looks
or written out, the scalar is read as what the tag says, and that may fail.
-/

namespace ContentBlocks.Yaml

/-- What a node is said to be. -/
inductive Tag where
  | null
  | bool
  | int
  | float
  | binary
  | timestamp
  | str
  | seq
  | map
  | set
  | omap
  | pairs
  /-- The key whose value is taken in. -/
  | merge
  /-- The key of the value that a mapping stands for where a scalar is needed. -/
  | standIn
  /-- A tag that nothing is known about. -/
  | other
  deriving DecidableEq

/-- The tag with a full name. -/
def Tag.ofName (name : String) : Tag :=
  match name.toList with
  | cs =>
    match Text.after? "tag:yaml.org,2002:".toList cs with
    | none => .other
    | some word =>
      match String.ofList word with
      | "null" => .null
      | "bool" => .bool
      | "int" => .int
      | "float" => .float
      | "binary" => .binary
      | "timestamp" => .timestamp
      | "str" => .str
      | "seq" => .seq
      | "map" => .map
      | "set" => .set
      | "omap" => .omap
      | "pairs" => .pairs
      | "merge" => .merge
      | "value" => .standIn
      | _ => .other

/-! ### Looks -/

/-- A text without a sign at its start. -/
def unsigned (cs : List Char) : List Char := (Text.signed cs).2

/-- Whether a text is empty or digits and low lines only. -/
def isSpaced (isDigit : Char → Bool) (cs : List Char) : Bool :=
  cs.all fun c => isDigit c || c = '_'

/-- Whether a text is a digit and then digits and low lines. -/
def isWhole (cs : List Char) : Bool :=
  cs.head?.any Char.isDigit && isSpaced Char.isDigit cs

/-- Whether a text is one of the numbers 0 to 59, with at most two digits. -/
def isSixtieth : List Char → Bool
  | [c] => c.isDigit
  | [c, d] => '0' ≤ c && c ≤ '5' && d.isDigit
  | _ => false

/-- Whether a text looks like a whole number: binary, octal, decimal, hexadecimal, or places of a
base of sixty. -/
def looksWhole (cs : List Char) : Bool :=
  match unsigned cs with
  | ['0'] => true
  | '0' :: 'b' :: ds => !ds.isEmpty && isSpaced (fun c => c = '0' || c = '1') ds
  | '0' :: 'x' :: ds => !ds.isEmpty && isSpaced (fun c => (Text.hexValue? c).isSome) ds
  | '0' :: ds => isSpaced (fun c => '0' ≤ c && c ≤ '7') ds
  | ds =>
    match Text.splitAt ':' ds with
    | first :: rest => isWhole first && rest.all isSixtieth
    | [] => false

/-- Whether a text is empty or an exponent with a sign. -/
def isExponent : List Char → Bool
  | [] => true
  | e :: sign :: ds =>
    (e = 'e' || e = 'E') && (sign = '+' || sign = '-') && !ds.isEmpty && ds.all Char.isDigit
  | _ => false

/-- Whether what follows a point is digits, low lines and perhaps an exponent. -/
def isFraction (cs : List Char) : Bool :=
  isExponent (cs.dropWhile fun c => c.isDigit || c = '_')

/-- Whether a text looks like a number with a point. -/
def looksReal (cs : List Char) : Bool :=
  let body := unsigned cs
  let whole := body.takeWhile (· ≠ '.')
  match body.dropWhile (· ≠ '.') with
  | '.' :: fraction =>
    if whole.isEmpty then
      ["inf", "Inf", "INF"].contains (String.ofList fraction) ||
        (body.length = cs.length &&
          (["nan", "NaN", "NAN"].contains (String.ofList fraction) ||
            (fraction.head?.any Char.isDigit && isFraction fraction)))
    else
      (isWhole whole && isFraction fraction) ||
        (match Text.splitAt ':' whole with
        | first :: second :: rest =>
          isWhole first && (second :: rest).all isSixtieth && isSpaced Char.isDigit fraction
        | _ => false)
  | _ => false

/-- The parts of a timestamp as they are written. -/
structure Stamp where
  year : List Char
  month : List Char
  day : List Char
  /-- Hour, minute, second, the digits after the point, and the offset in minutes. -/
  time : Option (List Char × List Char × List Char × List Char × Option Int)

/-- One or two digits, and what follows them. -/
def fewDigits? : List Char → Option (List Char × List Char)
  | c :: d :: cs =>
    if !c.isDigit then none else if d.isDigit then some ([c, d], cs) else some ([c], d :: cs)
  | [c] => if c.isDigit then some ([c], []) else none
  | [] => none

/-- Exactly two digits, and what follows them. -/
def twoDigits? (cs : List Char) : Option (List Char × List Char) :=
  (fewDigits? cs).bind fun (ds, rest) => if ds.length = 2 then some (ds, rest) else none

/-- What follows a character that has to come first. -/
def behind? (c : Char) (cs : List Char) : Option (List Char) := Text.after? [c] cs

/-- The value of a run of ASCII digits. -/
def number (ds : List Char) : Nat := Text.ofDigits 10 (ds.map fun c => c.toNat - 48)

/-- The offset at the end of a timestamp, in minutes: none, `Z`, or a sign with hours and perhaps
minutes. -/
def offset? (cs : List Char) : Option (Option Int) :=
  if cs.isEmpty then some none
  else match cs.dropWhile Text.isSpaceOrTab with
    | ['Z'] => some (some 0)
    | sign :: rest =>
      if sign = '+' || sign = '-' then do
        let (hours, rest) ← fewDigits? rest
        let minutes ← match rest with
          | [] => some []
          | ':' :: more => (twoDigits? more).bind fun (ds, after) =>
            if after.isEmpty then some ds else none
          | _ => none
        let n : Int := number hours * 60 + number minutes
        return some (if sign = '-' then -n else n)
      else none
    | [] => none

/-- The time in a timestamp, from the mark before it on. -/
def time? (cs : List Char) :
    Option (List Char × List Char × List Char × List Char × Option Int) := do
  let cs ← match cs with
    | c :: rest =>
      if c = 'T' || c = 't' then some rest
      else if Text.isSpaceOrTab c then some (rest.dropWhile Text.isSpaceOrTab)
      else none
    | [] => none
  let (hour, cs) ← fewDigits? cs
  let (minute, cs) ← twoDigits? (← behind? ':' cs)
  let (second, cs) ← twoDigits? (← behind? ':' cs)
  let (fraction, cs) := match cs with
    | '.' :: rest => (rest.takeWhile Char.isDigit, rest.dropWhile Char.isDigit)
    | _ => ([], cs)
  return (hour, minute, second, fraction, ← offset? cs)

/-- The parts of a timestamp. -/
def stamp? (cs : List Char) : Option Stamp := do
  let year := cs.take 4
  if year.length = 4 && year.all Char.isDigit then
    let (month, cs) ← fewDigits? (← behind? '-' (cs.drop 4))
    let (day, cs) ← fewDigits? (← behind? '-' cs)
    if cs.isEmpty then return ⟨year, month, day, none⟩
    else return ⟨year, month, day, some (← time? cs)⟩
  else none

/-- Whether a text looks like a timestamp; a date alone needs two digits for month and day. -/
def looksTimely (cs : List Char) : Bool :=
  match stamp? cs with
  | some s => s.time.isSome || (s.month.length = 2 && s.day.length = 2)
  | none => false

/-- The words that look like truth values. -/
def truthLooks : List String :=
  ["yes", "Yes", "YES", "no", "No", "NO", "true", "True", "TRUE", "false", "False", "FALSE",
   "on", "On", "ON", "off", "Off", "OFF"]

/-- A text without a line end at its end, unless it is nothing else.  How a scalar looks does not
depend on that line end. -/
def withoutFinalBreak (cs : List Char) : List Char :=
  if 1 < cs.length && cs.getLast? = some '\n' then cs.dropLast else cs

/-- What a plain scalar is taken for. -/
def Tag.ofPlain (text : String) : Tag :=
  let cs := withoutFinalBreak text.toList
  let text := String.ofList cs
  if truthLooks.contains text then .bool
  else if looksReal cs then .float
  else if looksWhole cs then .int
  else if text = "<<" then .merge
  else if ["", "~", "null", "Null", "NULL"].contains text then .null
  else if looksTimely cs then .timestamp
  else if text = "=" then .standIn
  else if ["!", "&", "*"].contains text then .other
  else .str

/-! ### Reading -/

/-- A text without low lines. -/
def unspaced (text : String) : List Char := text.toList.filter (· ≠ '_')

/-- The truth value that a scalar tagged as one stands for. -/
def readTruth (text : String) : Except Failure Bool :=
  let word := String.ofList (Text.lower text.toList)
  if ["yes", "true", "on"].contains word then .ok true
  else if ["no", "false", "off"].contains word then .ok false
  else .error .notTruth

/-- A numeral in a base. -/
def readIn (base : Nat) (cs : List Char) : Except Failure Int :=
  match Text.integerIn? base cs with
  | .whole n => .ok n
  | .tooLong count => .error (.tooManyDigits count)
  | .unreadable => .error (.notWhole base (.ofList cs))

/-- The whole number of places in base sixty, the largest first. -/
def readSixties (parts : List (List Char)) : Except Failure Int := do
  let ns ← parts.mapM (readIn 10)
  return ns.foldl (fun n d => n * 60 + d) 0

/-- A whole number after its sign. -/
def readMagnitude (cs : List Char) : Except Failure Int :=
  match cs with
  | ['0'] => .ok 0
  | '0' :: 'b' :: ds => readIn 2 ds
  | '0' :: 'x' :: ds => readIn 16 ds
  | '0' :: _ => readIn 8 cs
  | [] => .error .emptyNumeral
  | _ => if cs.contains ':' then readSixties (Text.splitAt ':' cs) else readIn 10 cs

/-- The whole number that a scalar tagged as one stands for. -/
def readWhole (text : String) : Except Failure Int :=
  let (negative, body) := Text.signed (unspaced text)
  (readMagnitude body).map fun n => if negative then -n else n

/-- A decimal with a point or an exponent, or one of the words for the special numbers, blanks
around it allowed. -/
def real? (cs : List Char) : Option Float :=
  let (negative, body) := Text.signed (Text.strip cs)
  let word := String.ofList (body.map Char.toLower)
  let bySign (x : Float) : Float := if negative then -x else x
  if word = "inf" || word = "infinity" then some (bySign (1 / 0))
  else if word = "nan" then some (bySign (0 / 0))
  else do
    let digits (cs : List Char) : List Nat := (cs.takeWhile fun c =>
      (Text.digitValue? c).isSome).filterMap Text.digitValue?
    let whole := digits body
    let rest := body.drop whole.length
    let fraction := match rest with
      | '.' :: cs => digits cs
      | _ => []
    let rest := match rest with
      | '.' :: cs => cs.drop fraction.length
      | _ => rest
    let exponent ← match rest with
      | [] => some 0
      | e :: cs =>
        let (down, ds) := Text.signed cs
        if (e = 'e' || e = 'E') && !ds.isEmpty && (digits ds).length = ds.length then
          let n : Int := Text.ofDigits 10 (digits ds)
          some (if down then -n else n)
        else none
    if (whole ++ fraction).isEmpty then none
    else some (Decimal.ofDecimal negative (Text.ofDigits 10 (whole ++ fraction))
      (exponent - fraction.length))

/-- The number with a point nearest to a power of sixty, if they reach that far. -/
def sixtyPower? (exponent : Nat) : Option Float :=
  let x := Decimal.ofDecimal false (Nat.pow 60 exponent) 0
  if Decimal.isFinite x then some x else none

/-- The places of a base of sixty summed up from the smallest. -/
def sumSixties (parts : List Float) : Except Failure Float :=
  parts.reverse.zipIdx.foldlM
    (fun sum (x, exponent) =>
      match sixtyPower? exponent with
      | some power => .ok (sum + x * power)
      | none => .error .tooManyPlaces)
    0

/-- The number with a point that a scalar tagged as one stands for. -/
def readReal (text : String) : Except Failure Float := do
  let (negative, body) := Text.signed (Text.lower (unspaced text))
  let word := String.ofList body
  let read (cs : List Char) : Except Failure Float :=
    match real? cs with
    | some x => .ok x
    | none => .error (.notReal (.ofList cs))
  let x ←
    if (unspaced text).isEmpty then .error .emptyNumeral
    else if word = ".inf" then pure (1 / 0)
    else if word = ".nan" then pure (0 / 0)
    else if body.contains ':' then do
      sumSixties (← (Text.splitAt ':' body).mapM read)
    else read body
  return if negative && word ≠ ".nan" then -x else x

/-- The timestamp that a scalar tagged as one stands for: a date, or a moment if a time is given. -/
def readStamp (text : String) : Except Failure (Calendar.Date ⊕ Calendar.Moment) :=
  match stamp? (withoutFinalBreak text.toList) with
  | none => .error .notTimestamp
  | some s => do
    let date : Calendar.Date := ⟨number s.year, number s.month, number s.day⟩
    let checkDate : Except Failure PUnit :=
      if date.year = 0 then .error (.outOfRange (.year 0))
      else if !(1 ≤ date.month && date.month ≤ 12) then .error (.outOfRange .month)
      else if !(1 ≤ date.day && date.day ≤ Calendar.daysIn date.year date.month) then
        .error (.outOfRange .day)
      else .ok ⟨⟩
    match s.time with
    | none => do
      checkDate
      return .inl date
    | some (hour, minute, second, fraction, offset) =>
      if offset.any fun n => 1440 ≤ n.natAbs then
        .error (.outOfRange (.offset (offset.getD 0)))
      else do
        checkDate
        let digits := fraction.take 6
        let m : Calendar.Moment :=
          { date
            hour := number hour
            minute := number minute
            second := number second
            microsecond := number digits * Nat.pow 10 (6 - digits.length)
            offset }
        if 23 < m.hour then .error (.outOfRange .hour)
        else if 59 < m.minute then .error (.outOfRange .minute)
        else if 59 < m.second then .error (.outOfRange .second)
        else return .inr m

/-! ### Binary -/

/-- The value of a digit of base 64. -/
def sextet? (c : Char) : Option Nat :=
  let n := c.toNat
  if 'A' ≤ c && c ≤ 'Z' then some (n - 65)
  else if 'a' ≤ c && c ≤ 'z' then some (n - 71)
  else if c.isDigit then some (n + 4)
  else if c = '+' then some 62
  else if c = '/' then some 63
  else none

/-- The bytes that digits of base 64 stand for.  `place` counts the digits of the group so far,
`carry` holds the bits that are left of the last one, and `padding` counts the signs of padding.
What is no digit is skipped. -/
def sextets? (place carry padding : Nat) : List Char → Option (List UInt8)
  | [] => if place = 0 then some [] else none
  | '=' :: cs =>
    if place < 2 then sextets? place carry padding cs
    else if 4 ≤ place + padding + 1 then some []
    else sextets? place carry (padding + 1) cs
  | c :: cs =>
    match sextet? c, place with
    | none, _ => sextets? place carry padding cs
    | some v, 0 => sextets? 1 v 0 cs
    | some v, 1 => (sextets? 2 (v % 16) 0 cs).map (UInt8.ofNat (carry * 4 + v / 16) :: ·)
    | some v, 2 => (sextets? 3 (v % 4) 0 cs).map (UInt8.ofNat (carry * 16 + v / 4) :: ·)
    | some v, _ => (sextets? 0 0 0 cs).map (UInt8.ofNat (carry * 64 + v) :: ·)

/-- The bytes that a scalar tagged as binary stands for. -/
def readBinary (text : String) : Except Failure (List UInt8) :=
  if text.toList.all fun c => c.toNat < 128 then
    match sextets? 0 0 0 text.toList with
    | some bytes => .ok bytes
    | none => .error .malformed
  else .error .malformed

end ContentBlocks.Yaml
