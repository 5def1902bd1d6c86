import ContentBlocks.Json.Value
import ContentBlocks.Decimal.Shortest
import ContentBlocks.Text.Numeral
import ContentBlocks.Text.Quoted

/-!
# JSON values in running text

How a value is put into a text: a text as it is, everything else in a form for readers, where texts
inside arrays and objects are quoted.  A value with a whole number in it that is too long to be
written has no such form.
-/

namespace ContentBlocks.Json

/-- A number with a point or an exponent in running text. -/
def proseFloat (x : Float) : String :=
  match Decimal.Parts.of x with
  | .finite negative m q => Decimal.proseStyle.writeFinite negative m q
  | .infinite false => "inf"
  | .infinite true => "-inf"
  | .undefined => "nan"

mutual

/-- A value inside another one. -/
def proseInner? : Json → Option String
  | .null => some "None"
  | .bool true => some "True"
  | .bool false => some "False"
  | .int n => Text.decimal? n
  | .float x => some (proseFloat x)
  | .str s => some (Text.quoted s)
  | .arr vs => (proseItems? vs).map fun items => "[" ++ ", ".intercalate items ++ "]"
  | .obj fields => (proseFields? fields).map fun items => "\x7b" ++ ", ".intercalate items ++ "\x7d"

/-- The items of an array. -/
def proseItems? : List Json → Option (List String)
  | [] => some []
  | v :: vs => do return (← proseInner? v) :: (← proseItems? vs)

/-- The fields of an object. -/
def proseFields? : List (String × Json) → Option (List String)
  | [] => some []
  | (name, v) :: fields => do
    return (Text.quoted name ++ ": " ++ (← proseInner? v)) :: (← proseFields? fields)

end

/-- A value in running text. -/
def prose? : Json → Option String
  | .str s => some s
  | v => proseInner? v

end ContentBlocks.Json
