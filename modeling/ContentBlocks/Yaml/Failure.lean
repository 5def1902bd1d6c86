import ContentBlocks.Text.Quoted

/-!
# Why a YAML text has no value

Most texts that have no value are not YAML, or are tagged with what they cannot be.  A few scalars
are refused later, by the reading of the number, the date or the character that they name; those
failures keep a message of their own.
-/

namespace ContentBlocks.Yaml

/-- The part of a date or time that is out of range. -/
inductive TimePart where
  | year (n : Nat)
  | month
  | day
  | hour
  | minute
  | second
  | offset (minutes : Int)
  deriving DecidableEq

/-- Why a text has no value. -/
inductive Failure where
  /-- The text is not YAML, or a tag does not fit what it stands at. -/
  | malformed
  /-- An escape names a number above all characters. -/
  | noCharacter
  /-- An escape names a number too large even to be looked at. -/
  | hugeCharacter
  | notWhole (base : Nat) (text : String)
  | tooManyDigits (count : Nat)
  | notReal (text : String)
  | outOfRange (part : TimePart)
  /-- A scalar tagged as a truth value is none of the words for them. -/
  | notTruth
  /-- A scalar tagged as a number is empty. -/
  | emptyNumeral
  /-- A scalar tagged as a timestamp is none. -/
  | notTimestamp
  /-- A number of base sixty has more places than numbers with a point reach. -/
  | tooManyPlaces
  /-- Any other scalar that is refused on its own account. -/
  | refused (message : String)
  /-- Any other failure, by its name. -/
  | other (name : String)
  deriving DecidableEq

/-- An offset of a day or more, as days and the seconds left. -/
def offsetText (minutes : Int) : String :=
  let seconds := minutes * 60
  let days := seconds.fdiv 86400
  let rest := seconds.fmod 86400
  "datetime.timedelta(days=" ++ toString days ++
    (if rest = 0 then "" else ", seconds=" ++ toString rest) ++ ")"

/-- What a message says about a part that is out of range. -/
def TimePart.message : TimePart → String
  | .year n => "year " ++ toString n ++ " is out of range"
  | .month => "month must be in 1..12"
  | .day => "day is out of range for month"
  | .hour => "hour must be in 0..23"
  | .minute => "minute must be in 0..59"
  | .second => "second must be in 0..59"
  | .offset minutes =>
    "offset must be a timedelta strictly between -timedelta(hours=24) and timedelta(hours=24), not "
      ++ offsetText minutes ++ "."

/-- The message of a scalar that is refused on its own account. -/
def Failure.message? : Failure → Option String
  | .noCharacter => some "chr() arg not in range(0x110000)"
  | .notWhole base text =>
    some ("invalid literal for int() with base " ++ toString base ++ ": " ++
      String.ofList ((Text.quoted text).toList.take 200))
  | .tooManyDigits count =>
    some ("Exceeds the limit (4300 digits) for integer string conversion: value has " ++
      toString count ++ " digits; use sys.set_int_max_str_digits() to increase the limit")
  | .notReal text => some ("could not convert string to float: " ++ Text.quoted text)
  | .outOfRange part => some part.message
  | .refused message => some message
  | _ => none

end ContentBlocks.Yaml
