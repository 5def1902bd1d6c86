import ContentBlocks.Text.Class

/-!
# Addresses between angle brackets

An absolute address or a mail address between angle brackets is a link with itself as its text.
-/

namespace ContentBlocks.Markdown

/-- What stands between angle brackets at the start of a text, the first of which is gone. -/
def bracketed? : List Char → Option (List Char)
  | [] => none
  | c :: cs =>
    if c = '<' then none else if c = '>' then some [] else (bracketed? cs).map (c :: ·)

/-- A text without one line end at its end. -/
def dropLineEnd (cs : List Char) : List Char :=
  if cs.getLast? = some '\n' then cs.dropLast else cs

/-- Whether a text is an absolute address: a scheme of 2 to 32 characters, a colon, and anything
without blanks and angle brackets. -/
def isAbsolute (cs : List Char) : Bool :=
  let isSchemeChar := fun (c : Char) => c.isAlphanum || c == '+' || c == '.' || c == '-'
  let scheme := cs.takeWhile isSchemeChar
  match cs.dropWhile isSchemeChar with
  | ':' :: rest =>
    (scheme.head?.any Char.isAlpha) && 2 ≤ scheme.length && scheme.length ≤ 32 &&
      (dropLineEnd rest).all fun c => c.toNat > 32 && c != '<' && c != '>'
  | _ => false

/-- Whether a text is a label of the domain in a mail address. -/
def isMailLabel (cs : List Char) : Bool :=
  (cs.head?.any Char.isAlphanum) && (cs.getLast?.any Char.isAlphanum) && cs.length ≤ 63 &&
    cs.all fun c => c.isAlphanum || c == '-'

/-- Whether a text is a mail address. -/
def isMail (cs : List Char) : Bool :=
  let cs := dropLineEnd cs
  let user := cs.takeWhile (· ≠ '@')
  match cs.dropWhile (· ≠ '@') with
  | _ :: domain =>
    !user.isEmpty &&
      user.all (fun c => c.isAlphanum || ".!#$%&'*+/=?^_\x60\x7b|\x7d~-".toList.contains c) &&
      (Text.splitAt '.' domain).all isMailLabel
  | [] => false

end ContentBlocks.Markdown
