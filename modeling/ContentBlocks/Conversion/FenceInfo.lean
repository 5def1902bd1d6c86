import ContentBlocks.Text.Class

/-!
# The info line of a fence

The line holds the language of the code up to the first space, and after it anything, in which a
file name may be given as the value of a `title` or `filename` attribute: between double marks,
between single ones, or bare up to the next blank.  The first attribute counts, wherever it begins.

## Main definitions

* `attributeValue?`: the value at the start of a text.
* `findAttribute?`: the value of the first attribute in a text.
* `FenceInfo.of`: language and file name of an info line.
-/

namespace ContentBlocks

open Text

/-- What a fence says about its code. -/
structure FenceInfo where
  language : Option String
  filename : Option String
  deriving DecidableEq

namespace FenceInfo

/-- A text up to a closing mark, if there is one. -/
def enclosed? (mark : Char) : List Char → Option (List Char)
  | [] => none
  | c :: cs => if c = mark then some [] else (enclosed? mark cs).map (c :: ·)

/-- A text up to the first blank, if it does not begin with one. -/
def bare? (cs : List Char) : Option (List Char) :=
  let word := cs.takeWhile fun c => !isBlank c
  if word.isEmpty then none else some word

/-- The value that a text begins with: an enclosed one, where a mark opens it and is closed again,
and a bare one otherwise. -/
def attributeValue? : List Char → Option (List Char)
  | [] => none
  | c :: cs =>
    if c = '"' || c = '\'' then enclosed? c cs <|> bare? (c :: cs) else bare? (c :: cs)

/-- The names of the attribute, with the sign after them. -/
def attributeStarts : List (List Char) := ["title=".toList, "filename=".toList]

/-- The value of the attribute that begins where a text begins. -/
def attributeHere? (cs : List Char) : Option (List Char) :=
  attributeStarts.findSome? fun start => (after? start cs).bind attributeValue?

/-- The value of the first attribute in a text. -/
def findAttribute? : List Char → Option (List Char)
  | [] => none
  | c :: cs => attributeHere? (c :: cs) <|> findAttribute? cs

/-- A text, unless it is empty. -/
def nonEmpty? (cs : List Char) : Option String := if cs.isEmpty then none else some (.ofList cs)

/-- The language and the file name in an info line. -/
def of (info : String) : FenceInfo :=
  let line := strip info.toList
  let rest := (line.dropWhile (· ≠ ' ')).drop 1
  { language := nonEmpty? (line.takeWhile (· ≠ ' '))
    filename := (findAttribute? rest).bind nonEmpty? }

end FenceInfo

end ContentBlocks
