import ContentBlocks.Text.Class

/-!
# Paths

A path is read from a text once and is normal from then on: empty parts and parts that stay in place
are gone, while steps upward remain, since they need the folder they leave.
-/

namespace ContentBlocks.Storage

/-- A path, absolute if it has slashes before its first part.  Two slashes are kept apart from one;
more count as one. -/
structure Path where
  slashes : Nat
  parts : List String
  deriving DecidableEq

namespace Path

/-- The path to the working folder. -/
def here : Path := ⟨0, []⟩

/-- The number of slashes that a text begins with, as far as it matters. -/
def leadingSlashes : List Char → Nat
  | '/' :: '/' :: '/' :: _ => 1
  | '/' :: '/' :: _ => 2
  | '/' :: _ => 1
  | _ => 0

/-- The path that a text names. -/
def ofText (s : String) : Path where
  slashes := leadingSlashes s.toList
  parts := ((Text.splitAt '/' s.toList).filter fun part => !part.isEmpty && part ≠ ['.']).map
    String.ofList

/-- A path as text. -/
def toText (p : Path) : String :=
  if p = here then "."
  else String.ofList (List.replicate p.slashes '/') ++ "/".intercalate p.parts

/-- Whether a path starts at the root. -/
def isAbsolute (p : Path) : Bool := 0 < p.slashes

/-- A path seen from another one. -/
def join (p q : Path) : Path := if q.isAbsolute then q else ⟨p.slashes, p.parts ++ q.parts⟩

/-- The path without its last part. -/
def parent (p : Path) : Path := ⟨p.slashes, p.parts.dropLast⟩

/-- The last part. -/
def name (p : Path) : String := p.parts.getLastD ""

/-- A name cut at its last dot, where that neither begins nor ends it. -/
def splitName (name : List Char) : List Char × List Char :=
  let tail := (name.reverse.takeWhile (· ≠ '.')).reverse
  let dot := name.length - tail.length - 1
  if tail.isEmpty || name.length ≤ tail.length + 1 then (name, [])
  else (name.take dot, name.drop dot)

/-- The last part without its suffix. -/
def stem (p : Path) : String := .ofList (splitName p.name.toList).1

/-- The suffix of the last part, with its dot; empty if there is none. -/
def suffix (p : Path) : String := .ofList (splitName p.name.toList).2

/-- Whether a path holds the character that ends texts for the system. -/
def hasZeroByte (p : Path) : Bool := p.parts.any fun part => part.toList.contains '\x00'

/-- The longest path that can be given to the system, in bytes. -/
def maxSize : Nat := 4095

/-- Whether a path is too long to be given to the system.  One with the character that ends texts
never is given to it. -/
def isTooLong (p : Path) : Bool := !p.hasZeroByte && decide (maxSize < p.toText.utf8ByteSize)

/-- Whether parts come before others: at the first difference the lower text decides, and what is
shorter comes first. -/
def precedes : List String → List String → Bool
  | [], _ => true
  | _ :: _, [] => false
  | a :: as, b :: bs => if a = b then precedes as bs else decide (a < b)

end Path

end ContentBlocks.Storage
