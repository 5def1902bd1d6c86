import ContentBlocks.Text.Quoted

/-!
# Keys

Keys are drawn from a source in order.  A source is the sequence of its answers, and a call may
fail.  `Source.random` gives the keys of real documents: 32 hexadecimal digits each, no two alike
for a long time.
-/

namespace ContentBlocks.Key

/-- Why a call of a key source fails. -/
inductive Failure where
  /-- The source has come to its end. -/
  | ended
  /-- The source has come to its end inside of an iterator, whose own end that is not. -/
  | endedInIterator
  /-- Any other failure, by its name. -/
  | other (name : String)
  deriving DecidableEq

/-- What a failure inside of an iterator is outside of it.  The end of the source must not pass for
the end of the iterator. -/
def Failure.outOfIterator : Failure → Failure
  | .ended => .endedInIterator
  | cause => cause

/-- The answers of a key source: the `n`-th key, counted from zero, or why there is none. -/
abbrev Source := Nat → Except Failure String

/-- The source `k0`, `k1`, `k2`, … -/
def Source.counted : Source := fun n => .ok ("k" ++ toString n)

/-- A source that answers only a number of calls and fails after them. -/
def Source.limited (calls : Nat) (cause : Failure) (source : Source) : Source :=
  fun n => if n < calls then source n else .error cause

/-- The source of empty keys. -/
def Source.empty : Source := fun _ => .ok ""

/-- The number of bits of a key that are free; the others mark it as a random identifier. -/
def freeBits : Nat := 122

/-- The 128-bit random identifier that carries 122 given bits: 48 of them, the version 4, 12 more,
the variant, and the last 62. -/
def identifier (bits : Nat) : Nat :=
  let high := bits / Nat.pow 2 74 % Nat.pow 2 48
  let middle := bits / Nat.pow 2 62 % Nat.pow 2 12
  let low := bits % Nat.pow 2 62
  high * Nat.pow 2 80 + 4 * Nat.pow 2 76 + middle * Nat.pow 2 64 + Nat.pow 2 63 + low

/-- The text of a key. -/
def text (bits : Nat) : String :=
  .ofList (Text.hexPadded 32 (identifier (bits % Nat.pow 2 freeBits)))

/-- The keys from a seed on. -/
def Source.random (seed : Nat) : Source := fun n => .ok (text (seed + n))

/-- Whether a text is 32 hexadecimal digits in small letters. -/
def isWellFormed (key : String) : Bool :=
  key.length == 32 && key.toList.all fun c => c.isDigit || ('a' ≤ c && c ≤ 'f')

/-- A list without the later copies of its members. -/
def distinct : List String → List String
  | [] => []
  | k :: ks => k :: (distinct ks).filter (· ≠ k)

end ContentBlocks.Key
