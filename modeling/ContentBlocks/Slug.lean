import ContentBlocks.Text.Letter

/-!
# Slugs and anchors

Two ways to make a name out of a text.  Both put the text into small letters and join pieces of it
by single hyphens: a slug keeps the words of any script, an anchor keeps `a` to `z`, the ten digits
and the CJK ideographs.

## Main definitions

* `runs`: the maximal stretches of a text within a class of characters.
* `slug`, `anchor`: the two names.
-/

namespace ContentBlocks

open Text

/-- The maximal non-empty runs of characters that satisfy `p`, in order. -/
def runs (p : Char → Bool) : List Char → List (List Char)
  | [] => []
  | c :: cs =>
    if p c then
      match cs, runs p cs with
      | d :: _, run :: rest => if p d then (c :: run) :: rest else [c] :: run :: rest
      | _, rest => [c] :: rest
    else runs p cs

/-- Pieces with single hyphens between them. -/
def hyphenate : List (List Char) → List Char
  | [] => []
  | [piece] => piece
  | piece :: rest => piece ++ '-' :: hyphenate rest

/-- What separates the pieces of a slug. -/
def isSlugSeparator (c : Char) : Bool := isBlank c || c == '_' || c == '-'

/-- What a slug takes from a text at all. -/
def isSlugMaterial (c : Char) : Bool := isWord c || isBlank c || c == '-'

/-- The slug of a text: its words, in small letters and without punctuation, joined by hyphens. -/
def slug (s : String) : String :=
  .ofList (hyphenate (runs (fun c => !isSlugSeparator c) ((lower s.toList).filter isSlugMaterial)))

/-- The characters of an anchor. -/
def isAnchorChar (c : Char) : Bool :=
  ('a' ≤ c && c ≤ 'z') || c.isDigit || (0x4E00 ≤ c.toNat && c.toNat ≤ 0x9FFF)

/-- The anchor of a heading: what is left of its text in small letters, joined by hyphens. -/
def anchor (s : String) : String :=
  .ofList (hyphenate (runs isAnchorChar (lower s.toList)))

end ContentBlocks
