import ContentBlocks.Yaml.Document
import ContentBlocks.Yaml.Value

/-!
# Reading YAML

The value of a text: its document is read to nodes, and each node to the value that its tag makes
it.  Of several nodes that have no value the one nearest to the root is the failure, and among those
at one depth the first.
-/

namespace ContentBlocks.Yaml

/-- A result, or a failure with the depth of the node it belongs to. -/
abbrev Found (α : Type) := Except (Nat × Failure) α

namespace Found

variable {α β : Type}

/-- Two results side by side; of two failures the one nearer to the root counts. -/
def both (f : Found (α → β)) (a : Found α) : Found β :=
  match f, a with
  | .ok f, .ok a => .ok (f a)
  | .ok _, .error e => .error e
  | .error e, .ok _ => .error e
  | .error (m, e), .error (n, e') => .error (if n < m then (n, e') else (m, e))

/-- A result of reading a scalar at a depth. -/
def lift (depth : Nat) (r : Except Failure α) : Found α := r.mapError (depth, ·)

/-- The failure of a node whose tag does not fit. -/
def misfit (depth : Nat) : Found α := .error (depth, .malformed)

/-- A key, which must be none of the collections. -/
def key (depth : Nat) (k : Found Value) : Found Value :=
  k.bind fun v => if v.isKey then .ok v else misfit depth

end Found

/-- The value of a text with the tag of a scalar. -/
def textValue (tag : Tag) (text : String) : Except Failure Value :=
  match tag with
  | .null => .ok .null
  | .bool => (readTruth text).map .bool
  | .int => (readWhole text).map .int
  | .float => (readReal text).map .float
  | .binary => (readBinary text).map .bytes
  | .timestamp => (readStamp text).map fun
    | .inl d => .date d
    | .inr m => .moment m
  | .str => .ok (.str text)
  | _ => .error .malformed

/-- The value of a scalar with a tag.  Broken texts are texts, but no numbers, dates and so on. -/
def scalarValue (tag : Tag) (wording : Wording) : Except Failure Value :=
  match wording, tag with
  | .text s, tag => textValue tag s
  | .broken _, .null => .ok .null
  | .broken numbers, .str => .ok (.broken numbers)
  | .broken _, .bool => .error .notTruth
  | .broken numbers, .int => .error (.notWhole 10 (charsAmong numbers))
  | .broken numbers, .float => .error (.notReal (charsAmong numbers))
  | .broken _, .timestamp => .error .notTimestamp
  | .broken _, _ => .error .malformed

/-- A node as a key, where one that would stand in for its mapping is a text. -/
def Node.asKey (n : Node) : Node :=
  if n.tag = .standIn then .scalar .str (n.wording?.getD (.text "")) else n

/-- The values of nodes. -/
def listValue (value : Node → Found Value) : List Node → Found (List Value)
  | [] => .ok []
  | n :: ns => .both (.both (.ok List.cons) (value n)) (listValue value ns)

/-- The values of entries, at a depth. -/
def entriesValue (depth : Nat) (value : Node → Found Value) :
    List (Node × Node) → Found (List (Value × Value))
  | [] => .ok []
  | (k, v) :: es =>
    .both (.both (.both (.ok fun k v vs => (k, v) :: vs) (.key depth (value k.asKey))) (value v))
      (entriesValue depth value es)

/-- The values of items at a depth that are mappings of one entry, each as a key and its value. -/
def pairsValue (depth : Nat) (value : Node → Found Value) : List Node → Found (List Value)
  | [] => .ok []
  | .mapping _ _ [(k, v)] :: ns =>
    .both (.both (.both (.ok fun k v vs => .list [k, v] :: vs) (value k)) (value v))
      (pairsValue depth value ns)
  | _ => .misfit depth

/-- The map that entries at a depth make; there are none where what they take in cannot be had. -/
def mapValue (depth : Nat) (value : Node → Found Value) (es? : Option (List (Node × Node))) :
    Found (List (Value × Value)) :=
  match es? with
  | none => .misfit depth
  | some es => (entriesValue depth value es).map Value.ofEntries

/-- The value of a node at a depth, given the collections that can be named from inside and the
numbers of those around it.  A collection inside itself is not read again.  The first argument
bounds the number of steps. -/
def Node.value (known : List (Nat × Node)) : Nat → Nat → List Nat → Node → Found Value
  | 0, depth, _, _ => .misfit depth
  | fuel + 1, depth, around, n =>
    let inner := depth + 1
    let part := value known fuel inner (n.number?.toList ++ around)
    match n, n.tag with
    | .enclosing .., _ => .ok .enclosing
    | .sequence _ number items, tag =>
      if around.contains number then .ok .enclosing
      else match tag with
        | .seq => (listValue part items).map .list
        | .omap | .pairs => (pairsValue inner part items).map .list
        | .map | .set => .misfit inner
        | _ => .misfit depth
    | .mapping _ number _, tag =>
      if around.contains number then .ok .enclosing
      else match tag with
        | .map => (mapValue inner part (n.lent known (fuel + 1) [])).map .map
        | .set =>
          (mapValue inner part (n.lent known (fuel + 1) [])).map fun es => .set (es.map Prod.fst)
        | .seq | .omap | .pairs => .misfit inner
        | tag =>
          match n.wording? with
          | some w => .lift depth (scalarValue tag w)
          | none => .misfit depth
    | .scalar _ w, tag =>
      match tag with
      | .seq | .omap | .pairs | .map | .set => .misfit inner
      | tag => .lift depth (scalarValue tag w)

/-- The largest depth of nodes that is looked into. -/
def depthBound (cs : List Char) : Nat := cs.length + 2

/-- The value of a text; an empty one has the value null. -/
def read (text : String) : Except Failure Value :=
  let cs := text.toList
  if cs.all isAllowed then
    match document? cs with
    | .error f => .error f
    | .ok (none, _) => .ok .null
    | .ok (some n, known) => (n.value known (depthBound cs) 0 []).mapError Prod.snd
  else .error .malformed

end ContentBlocks.Yaml
