import ContentBlocks.Calendar.Basic
import ContentBlocks.Decimal.Shortest
import ContentBlocks.Text.Class

/-!
# YAML values

What a YAML document says.  The entries of a map stand in the order of the text; two keys are one
when they are equal as values, whatever their kinds: `1`, `1.0` and `true` are the same key.
-/

namespace ContentBlocks.Yaml

/-- A value. -/
inductive Value where
  | null
  | bool (b : Bool)
  | int (n : Int)
  | float (x : Float)
  | str (s : String)
  /-- A text that holds numbers which are no characters but halves of a pair. -/
  | broken (numbers : List Nat)
  | bytes (bs : List UInt8)
  | date (d : Calendar.Date)
  | moment (m : Calendar.Moment)
  | list (items : List Value)
  | set (items : List Value)
  | map (entries : List (Value × Value))
  /-- The collection that this value stands in, once more. -/
  | enclosing
  deriving Inhabited

/-- The characters among some numbers. -/
def charsAmong (numbers : List Nat) : String :=
  .ofList ((numbers.filter fun n => decide n.isValidChar).map Char.ofNat)

namespace Value

/-- Whether a value counts as true: all do but null, false, the zeros, and what is empty. -/
def truthy : Value → Bool
  | .null => false
  | .bool b => b
  | .int n => n ≠ 0
  | .float x => x != 0
  | .str s => !s.isEmpty
  | .broken numbers => !numbers.isEmpty
  | .bytes bs => !bs.isEmpty
  | .list items => !items.isEmpty
  | .set items => !items.isEmpty
  | .map entries => !entries.isEmpty
  | .date _ | .moment _ | .enclosing => true

/-- What messages call the kind of a value. -/
def kindName : Value → String
  | .null => "NoneType"
  | .bool _ => "bool"
  | .int _ => "int"
  | .float _ => "float"
  | .str _ | .broken _ => "str"
  | .bytes _ => "bytes"
  | .date _ => "date"
  | .moment _ => "datetime"
  | .list _ | .enclosing => "list"
  | .set _ => "set"
  | .map _ => "dict"

/-- Whether a value is a broken text. -/
def isBroken : Value → Bool
  | .broken _ => true
  | _ => false

/-- Whether a value can be a key: collections cannot. -/
def isKey : Value → Bool
  | .list _ | .set _ | .map _ | .enclosing => false
  | _ => true

/-- The whole number that a key counts as. -/
def whole? : Value → Option Int
  | .bool b => some (if b then 1 else 0)
  | .int n => some n
  | .float x => Decimal.integral? x
  | _ => none

/-- Whether two keys are the same. -/
def sameKey (a b : Value) : Bool :=
  match a.whole?, b.whole? with
  | some m, some n => m = n
  | none, none =>
    match a, b with
    | .null, .null => true
    | .float x, .float y => x == y || (x.isNaN && y.isNaN)
    | .str s, .str t => s = t
    | .broken s, .broken t => s = t
    | .bytes s, .bytes t => s = t
    | .date d, .date e => d = e
    | .moment m, .moment n => m.same n
    | _, _ => false
  | _, _ => false

/-- The value under a key that is a text. -/
def field? (name : String) : List (Value × Value) → Option Value
  | [] => none
  | (.str k, v) :: rest => if k = name then some v else field? name rest
  | _ :: rest => field? name rest

/-- Entries with a further one: a key that is there already keeps its place and gets the new
value. -/
def putEntry (k v : Value) : List (Value × Value) → List (Value × Value)
  | [] => [(k, v)]
  | (k', w) :: rest => if k'.sameKey k then (k', v) :: rest else (k', w) :: putEntry k v rest

/-- The entries of a map, the later ones put to the earlier ones. -/
def ofEntries (es : List (Value × Value)) : List (Value × Value) :=
  es.foldl (fun m (k, v) => putEntry k v m) []

end Value

end ContentBlocks.Yaml
