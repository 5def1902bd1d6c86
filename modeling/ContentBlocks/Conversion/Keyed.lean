import ContentBlocks.Block.Key
import ContentBlocks.Schema.Issue

/-!
# Computations that draw keys

Conversion hands out keys in the order in which it builds things, so it runs over a key source and
the number of keys drawn so far.  It fails where the source does, and where a node cannot become a
block.  What is run inside of an iterator passes the end of the source on as a failure of the
iterator, and every other failure as it is.
-/

namespace ContentBlocks.Conversion

/-- Why a tree cannot be converted. -/
inductive Failure where
  /-- The key source has failed. -/
  | keys (cause : Key.Failure)
  /-- The tag of a heading does not end in a numeral. -/
  | unreadableLevel
  /-- The address of an image has a whole number in it that is too long to be written. -/
  | unwritableAddress
  /-- The parts of a block do not fit it. -/
  | invalid (issues : List Schema.Issue)
  deriving DecidableEq

/-- A computation over a key source and the number of keys drawn so far. -/
abbrev Keyed (α : Type) := ReaderT Key.Source (StateT Nat (Except Failure)) α

/-- The next key. -/
def draw : Keyed String := fun source n =>
  match source n with
  | .ok key => .ok (key, n + 1)
  | .error cause => .error (.keys cause)

/-- The failure of a computation. -/
def fail {α : Type} (f : Failure) : Keyed α := fun _ _ => .error f

/-- What a failure inside of an iterator is outside of it. -/
def Failure.outOfIterator : Failure → Failure
  | .keys cause => .keys cause.outOfIterator
  | f => f

/-- A computation that is run inside of an iterator. -/
def iterated {α : Type} (m : Keyed α) : Keyed α :=
  fun source n => (m source n).mapError Failure.outOfIterator

/-- The result of a computation and the number of keys drawn, from a first key on. -/
def Keyed.run {α : Type} (m : Keyed α) (source : Key.Source) (start : Nat) :
    Except Failure (α × Nat) :=
  m source start

@[simp] theorem draw_of_ok {source : Key.Source} {n : Nat} {key : String}
    (h : source n = .ok key) : draw source n = .ok (key, n + 1) := by
  simp [draw, h]

@[simp] theorem draw_of_error {source : Key.Source} {n : Nat} {cause : Key.Failure}
    (h : source n = .error cause) : draw source n = .error (.keys cause) := by
  simp [draw, h]

end ContentBlocks.Conversion
