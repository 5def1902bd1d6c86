import ContentBlocks.Text.CharReference

/-!
# Destinations and titles of links

What stands between the parentheses of a link, and in a link definition.  Each reader takes what it
can from the start of a text and returns it with what follows.
-/

namespace ContentBlocks.Markdown

open Text

/-- A destination between angle brackets, of which the first is gone. -/
def angled? : List Char → Option (List Char × List Char)
  | [] => none
  | '\\' :: c :: cs => (angled? cs).map fun (d, rest) => ('\\' :: c :: d, rest)
  | '>' :: cs => some ([], cs)
  | c :: cs =>
    if c = '\n' || c = '<' then none else (angled? cs).map fun (d, rest) => (c :: d, rest)

/-- A bare destination with `level` open parentheses before it.  It ends before a blank, a control
or an unmatched closing parenthesis; parentheses that stay open, or more than 32 at a time, spoil
it. -/
def bareDestination? : Nat → List Char → Option (List Char × List Char)
  | level, [] => if level = 0 then some ([], []) else none
  | level, '\\' :: c :: cs =>
    if c = ' ' then if level = 0 then some ([], '\\' :: c :: cs) else none
    else (bareDestination? level cs).map fun (d, rest) => ('\\' :: c :: d, rest)
  | level, c :: cs =>
    if c.toNat ≤ 32 || c.toNat = 127 then if level = 0 then some ([], c :: cs) else none
    else if c = '(' then
      if level ≥ 32 then none
      else (bareDestination? (level + 1) cs).map fun (d, rest) => (c :: d, rest)
    else if c = ')' then
      if level = 0 then some ([], c :: cs)
      else (bareDestination? (level - 1) cs).map fun (d, rest) => (c :: d, rest)
    else (bareDestination? level cs).map fun (d, rest) => (c :: d, rest)

/-- The destination at the start of a text, with its escapes resolved. -/
def destination? (cs : List Char) : Option (List Char × List Char) :=
  match cs with
  | '<' :: rest => (angled? rest).map fun (d, rest) => (unescape d, rest)
  | _ =>
    match bareDestination? 0 cs with
    | some ([], _) => none
    | some (d, rest) => some (unescape d, rest)
    | none => none

/-- A title up to its closing mark.  A title between parentheses holds no further opening one. -/
def titleBody? (mark : Char) : List Char → Option (List Char × List Char)
  | [] => none
  | '\\' :: c :: cs => (titleBody? mark cs).map fun (t, rest) => ('\\' :: c :: t, rest)
  | c :: cs =>
    if c = mark then some ([], cs)
    else if c = '(' && mark = ')' then none
    else (titleBody? mark cs).map fun (t, rest) => (c :: t, rest)

/-- The title at the start of a text, with its escapes resolved. -/
def title? (cs : List Char) : Option (List Char × List Char) :=
  let body := match cs with
    | '"' :: rest => titleBody? '"' rest
    | '\'' :: rest => titleBody? '\'' rest
    | '(' :: rest => titleBody? ')' rest
    | _ => none
  body.map fun (t, rest) => (unescape t, rest)

/-- Blanks between the parts of a link. -/
def skipGap (cs : List Char) : List Char := cs.dropWhile fun c => isSpaceOrTab c || c == '\n'

end ContentBlocks.Markdown
