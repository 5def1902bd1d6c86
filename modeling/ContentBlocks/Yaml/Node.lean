import ContentBlocks.Yaml.Scalar
import ContentBlocks.Yaml.Token

/-!
# YAML nodes

The tree that a YAML document is, before its scalars are read.  An alias is replaced by the node it
names; one that names a collection around itself stays as such.  Collections are numbered, so that
what stands for a collection around itself can be told from what stands for another one.
-/

namespace ContentBlocks.Yaml

/-- A node of a document. -/
inductive Node where
  | scalar (tag : Tag) (wording : Wording)
  | sequence (tag : Tag) (number : Nat) (items : List Node)
  | mapping (tag : Tag) (number : Nat) (entries : List (Node × Node))
  /-- A collection that this node stands in. -/
  | enclosing (isMapping : Bool) (number : Nat)
  deriving Inhabited

namespace Node

/-- The node of something left out. -/
def absent : Node := .scalar .null (.text "")

/-- The tag of a node. -/
def tag : Node → Tag
  | .scalar t _ => t
  | .sequence t _ _ => t
  | .mapping t _ _ => t
  | .enclosing true _ => .map
  | .enclosing false _ => .seq

/-- The number of a collection. -/
def number? : Node → Option Nat
  | .sequence _ n _ => some n
  | .mapping _ n _ => some n
  | _ => none

/-- Whether a node is a mapping, or stands for one around it. -/
def isMapping : Node → Bool
  | .mapping .. => true
  | .enclosing isMapping _ => isMapping
  | _ => false

mutual

/-- The wording of a scalar, or of the scalar that a mapping names as the one to stand in for it. -/
def wording? : Node → Option Wording
  | .scalar _ w => some w
  | .mapping _ _ entries => standIn? entries
  | _ => none

/-- The wording of the first value whose key marks it as standing in for the mapping. -/
def standIn? : List (Node × Node) → Option Wording
  | [] => none
  | (k, v) :: rest => if k.tag = .standIn then v.wording? else standIn? rest

end

/-! ### Entries that are taken in -/

/-- The entries of a mapping without those that only name what it takes in. -/
def ownEntries (es : List (Node × Node)) : List (Node × Node) :=
  es.filter fun (k, _) => k.tag ≠ .merge

/-- The entries that a node lends to a mapping it is taken into, given the collections that can be
named from inside and the numbers of the mappings that take in at the moment: those of a mapping,
which come after those it takes in itself, or those of all mappings of a sequence, the last one
first.  A mapping that is still taking in lends its own entries only.  The first argument bounds the
number of steps. -/
def lent (known : List (Nat × Node)) : Nat → List Nat → Node → Option (List (Node × Node))
  | 0, _, _ => none
  | fuel + 1, taking, n =>
    match n with
    | .mapping _ number es =>
      if taking.contains number then some (ownEntries es)
      else do
        let sources := es.filter fun (k, _) => k.tag = .merge
        let taken ← sources.mapM fun (_, v) => lent known fuel (number :: taking) v
        return taken.flatten ++ ownEntries es
    | .sequence _ _ items =>
      if items.all isMapping then
        (items.mapM (lent known fuel taking)).map fun parts => parts.reverse.flatten
      else none
    | .enclosing _ number => (known.lookup number).bind (lent known fuel taking)
    | .scalar .. => none

end Node

end ContentBlocks.Yaml
