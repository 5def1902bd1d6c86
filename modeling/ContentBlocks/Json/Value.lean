/-!
# JSON values

The values that JSON texts stand for.  Whole numbers and numbers with a point or an exponent are
kept apart, and an object is the list of its fields in the order of the text.
-/

namespace ContentBlocks

/-- A JSON value. -/
inductive Json where
  | null
  | bool (b : Bool)
  | int (n : Int)
  | float (x : Float)
  | str (s : String)
  | arr (items : List Json)
  | obj (fields : List (String × Json))
  deriving Inhabited

namespace Json

/-- The value of a field of an object. -/
def field? (name : String) : Json → Option Json
  | .obj fields => fields.lookup name
  | _ => none

/-- Whether a value counts as true: all do but null, false, the two zeros, and what is empty. -/
def truthy : Json → Bool
  | .null => false
  | .bool b => b
  | .int n => n ≠ 0
  | .float x => x != 0
  | .str s => !s.isEmpty
  | .arr items => !items.isEmpty
  | .obj fields => !fields.isEmpty

/-- The fields of an object with a further field: a name that is there already keeps its place and
gets the new value. -/
def put (name : String) (v : Json) : List (String × Json) → List (String × Json)
  | [] => [(name, v)]
  | (n, w) :: rest => if n = name then (n, v) :: rest else (n, w) :: put name v rest

/-- An object of those fields that have a value. -/
def ofFields (fields : List (String × Option Json)) : Json :=
  .obj (fields.filterMap fun (name, v) => v.map (name, ·))

/-- An object of all fields, null standing for a value that is absent. -/
def ofAllFields (fields : List (String × Option Json)) : Json :=
  .obj (fields.map fun (name, v) => (name, v.getD .null))

end Json

end ContentBlocks
