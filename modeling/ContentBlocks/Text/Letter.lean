import ContentBlocks.Text.Class
import ContentBlocks.Text.LetterTable

/-!
# Small letters and capitals

The case maps of whole texts.  Only two characters make them more than a map over characters:
`İ`, whose small form is an `i` and a combining dot, and `Σ`, which becomes `ς` at the end of a word
and `σ` elsewhere.  `fold` is the looser comparison of keywords, which takes four further characters
for the ASCII letters they resemble.
-/

namespace ContentBlocks.Text

/-- Where a run of the table takes a code point. -/
def CaseRun.image? (r : CaseRun) (n : Nat) : Option Nat :=
  if r.first ≤ n ∧ n ≤ r.last ∧ (n - r.first) % r.step = 0 then some ((n : Int) + r.offset).toNat
  else none

/-- The image of a character under the first run that covers it. -/
def mapByRuns (runs : List CaseRun) (c : Char) : Char :=
  match runs.findSome? (·.image? c.toNat) with
  | some n => Char.ofNat n
  | none => c

/-- The small form of one character where it is one character. -/
def smallLetter (c : Char) : Char := mapByRuns smallRuns c

/-- Whether the next letter, those that casing skips aside, has a case. -/
def startsCased : List Char → Bool
  | [] => false
  | c :: cs =>
    if inRanges caseIgnorableRanges c.toNat then startsCased cs else inRanges casedRanges c.toNat

/-- `lower`, told whether the last letter before the text has a case. -/
def lowerAfter (cased : Bool) : List Char → List Char
  | [] => []
  | c :: cs =>
    let rest :=
      lowerAfter
        (if inRanges caseIgnorableRanges c.toNat then cased else inRanges casedRanges c.toNat) cs
    if c = 'Σ' then (if cased && !startsCased cs then 'ς' else 'σ') :: rest
    else if c = 'İ' then 'i' :: '\u0307' :: rest
    else smallLetter c :: rest

/-- A text in small letters. -/
def lower (cs : List Char) : List Char := lowerAfter false cs

/-- The capital of one character. -/
def capital (c : Char) : List Char :=
  match capitalExpansions.lookup c.toNat with
  | some ns => ns.map Char.ofNat
  | none => [mapByRuns capitalRuns c]

/-- A text in capitals. -/
def upper (cs : List Char) : List Char := cs.flatMap capital

/-- The ASCII small letter that a character counts as when case is ignored: its own for a capital,
`i` for the dotted capital and the dotless small one, `s` for the long s and `k` for the kelvin
sign. -/
def fold (c : Char) : Char :=
  if c = 'İ' || c = 'ı' then 'i'
  else if c = 'ſ' then 's'
  else if c = '\u212A' then 'k'
  else if 'A' ≤ c && c ≤ 'Z' then Char.ofNat (c.toNat + 32)
  else c

/-- What follows a keyword, given in small letters, at the start of a text, case ignored. -/
def afterKeyword? : List Char → List Char → Option (List Char)
  | [], cs => some cs
  | _ :: _, [] => none
  | k :: word, c :: cs => if k = fold c then afterKeyword? word cs else none

end ContentBlocks.Text
