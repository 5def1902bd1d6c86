/-!
# What a terminal is sent

Lines are written without the sequences by which a terminal is told about colours and the like.
-/

namespace ContentBlocks.Command

/-- What follows such a sequence, from behind its first two characters on: parameters and a
letter. -/
def afterSequence? (cs : List Char) : Option (List Char) :=
  match cs.dropWhile fun c => c.isDigit || c = ';' || c = '?' with
  | c :: rest => if c.isAlpha then some rest else none
  | [] => none

/-- A text without such sequences.  The first argument bounds the number of steps. -/
def plainAux : Nat → List Char → List Char
  | 0, cs => cs
  | _, [] => []
  | fuel + 1, '\x1b' :: '[' :: cs =>
    match afterSequence? cs with
    | some rest => plainAux fuel rest
    | none => '\x1b' :: plainAux fuel ('[' :: cs)
  | fuel + 1, c :: cs => c :: plainAux fuel cs

/-- A text without such sequences. -/
def plain (s : String) : String := .ofList (plainAux s.toList.length s.toList)

end ContentBlocks.Command
