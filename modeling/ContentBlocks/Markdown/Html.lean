import ContentBlocks.Text.Letter

/-!
# HTML in Markdown

Tags, comments and the other constructs of HTML that a text may hold, and the lines that open a
block of HTML.  All readers take a construct from the start of a text and return what follows it.
-/

namespace ContentBlocks.Markdown.Html

open Text

/-- Characters of a tag name after its first letter. -/
def isTagChar (c : Char) : Bool := c.isAlphanum || c == '-'

/-- Characters an attribute name may begin with. -/
def isAttrStart (c : Char) : Bool := c.isAlpha || c == '_' || c == ':'

/-- Characters of an attribute name. -/
def isAttrChar (c : Char) : Bool := c.isAlphanum || c == ':' || c == '.' || c == '_' || c == '-'

/-- Characters of a value without marks. -/
def isBareChar (c : Char) : Bool := c.toNat > 32 && !"\"'=<>\x60".toList.contains c

/-- A tag name. -/
def afterTagName? : List Char → Option (List Char)
  | c :: cs => if c.isAlpha then some (cs.dropWhile isTagChar) else none
  | [] => none

/-- The end of an opening tag. -/
def afterTagEnd? (cs : List Char) : Option (List Char) :=
  match dropBlanks cs with
  | '/' :: '>' :: rest => some rest
  | '>' :: rest => some rest
  | _ => none

/-- What may follow a value: nothing else for a marked one, and for a bare one whatever follows one
of its non-empty beginnings, the longest first. -/
def afterValue (cs : List Char) : List (List Char) :=
  match cs with
  | mark :: rest =>
    if mark = '"' || mark = '\'' then
      match rest.dropWhile (· ≠ mark) with
      | _ :: after => [after]
      | [] => []
    else
      let n := (cs.takeWhile isBareChar).length
      (List.range n).map fun k => cs.drop (n - k)
  | [] => []

/-- What may follow an attribute: a name after blanks, and perhaps a value. -/
def afterAttribute (cs : List Char) : List (List Char) :=
  match cs, dropBlanks cs with
  | b :: _, c :: rest =>
    if isBlank b && isAttrStart c then
      let named := rest.dropWhile isAttrChar
      let valued := match dropBlanks named with
        | '=' :: more => afterValue (dropBlanks more)
        | _ => []
      valued ++ [named]
    else []
  | _, _ => []

/-- Attributes and the end of an opening tag.  The first argument bounds the number of
attributes. -/
def afterAttributes? : Nat → List Char → Option (List Char)
  | 0, cs => afterTagEnd? cs
  | fuel + 1, cs => (afterAttribute cs).findSome? (afterAttributes? fuel) <|> afterTagEnd? cs

/-- An opening tag. -/
def afterOpenTag? (cs : List Char) : Option (List Char) := do
  let rest ← afterTagName? (← after? ['<'] cs)
  afterAttributes? rest.length rest

/-- A closing tag. -/
def afterCloseTag? (cs : List Char) : Option (List Char) := do
  let rest ← afterTagName? (← after? ['<', '/'] cs)
  after? ['>'] (dropBlanks rest)

/-- What follows the first occurrence of a text. -/
def afterFirst? (part : List Char) : List Char → Option (List Char)
  | [] => none
  | c :: cs => after? part (c :: cs) <|> afterFirst? part cs

/-- The rest of a comment.  Two hyphens go together with the character after them, so that a third
hyphen before the closing bracket does not close the comment. -/
def afterCommentBody? : List Char → Option (List Char)
  | [] => none
  | '-' :: '-' :: c :: cs => if c = '>' then some cs else afterCommentBody? cs
  | '-' :: c :: cs => if c = '-' then none else afterCommentBody? cs
  | _ :: cs => afterCommentBody? cs

/-- A comment. -/
def afterComment? (cs : List Char) : Option (List Char) := do
  let rest ← after? "<!--".toList cs
  after? ['>'] rest <|> after? ['-', '>'] rest <|> afterCommentBody? rest

/-- A processing instruction. -/
def afterInstruction? (cs : List Char) : Option (List Char) := do
  afterFirst? ['?', '>'] (← after? ['<', '?'] cs)

/-- A declaration. -/
def afterDeclaration? (cs : List Char) : Option (List Char) := do
  match ← after? ['<', '!'] cs with
  | c :: rest => if c.isAlpha then afterFirst? ['>'] rest else none
  | [] => none

/-- A section of character data. -/
def afterCharacterData? (cs : List Char) : Option (List Char) := do
  afterFirst? "]]>".toList (← after? "<![CDATA[".toList cs)

/-- Any construct that may stand in a text. -/
def afterConstruct? (cs : List Char) : Option (List Char) :=
  afterOpenTag? cs <|> afterCloseTag? cs <|> afterComment? cs <|> afterInstruction? cs <|>
    afterDeclaration? cs <|> afterCharacterData? cs

/-! ### Blocks of HTML -/

/-- Elements whose content is not Markdown. -/
def rawNames : List (List Char) := ["script", "pre", "style", "textarea"].map String.toList

/-- Elements that stand in blocks of their own. -/
def blockNames : List (List Char) :=
  ["address", "article", "aside", "base", "basefont", "blockquote", "body", "caption", "center",
   "col", "colgroup", "dd", "details", "dialog", "dir", "div", "dl", "dt", "fieldset", "figcaption",
   "figure", "footer", "form", "frame", "frameset", "h1", "h2", "h3", "h4", "h5", "h6", "head",
   "header", "hr", "html", "iframe", "legend", "li", "link", "main", "menu", "menuitem", "nav",
   "noframes", "ol", "optgroup", "option", "p", "param", "search", "section", "summary", "table",
   "tbody", "td", "tfoot", "th", "thead", "title", "tr", "track", "ul"].map String.toList

/-- The ways in which a block of HTML opens, which say how it ends. -/
inductive Opening where
  | raw
  | comment
  | instruction
  | declaration
  | characterData
  | element
  | tag
  deriving DecidableEq

/-- Whether a text is over, or goes on with a blank or a closing bracket. -/
def endsName : List Char → Bool
  | [] => true
  | c :: _ => isBlank c || c == '>'

/-- Whether a line begins with the tag of one of some elements, case ignored. -/
def startsElement (names : List (List Char)) (slash : Bool) (line : List Char) : Bool :=
  match after? ['<'] line with
  | none => false
  | some rest =>
    let rest := if slash then (after? ['/'] rest).getD rest else rest
    names.any fun name =>
      match afterKeyword? name rest with
      | some after => endsName after || (slash && (after? ['/', '>'] after).isSome)
      | none => false

/-- Whether a line is a single tag. -/
def isLoneTag (line : List Char) : Bool :=
  match afterOpenTag? line <|> afterCloseTag? line with
  | some rest => allBlank rest
  | none => false

/-- How a line opens a block of HTML. -/
def opening? (line : List Char) : Option Opening :=
  if startsElement rawNames false line then some .raw
  else if (after? "<!--".toList line).isSome then some .comment
  else if (after? ['<', '?'] line).isSome then some .instruction
  else if (match after? ['<', '!'] line with
    | some (c :: _) => 'A' ≤ c && c ≤ 'Z'
    | _ => false) then some .declaration
  else if (after? "<![CDATA[".toList line).isSome then some .characterData
  else if startsElement blockNames true line then some .element
  else if isLoneTag line then some .tag
  else none

/-- Whether a block that opens in this way may follow the text of a paragraph at once. -/
def Opening.interrupts : Opening → Bool
  | .tag => false
  | _ => true

/-- Whether a text holds the closing tag of a raw element, case ignored. -/
def closesRaw : List Char → Bool
  | [] => false
  | c :: cs =>
    (match after? ['<', '/'] (c :: cs) with
      | some rest => rawNames.any fun name => ((afterKeyword? name rest).bind (after? ['>'])).isSome
      | none => false) || closesRaw cs

/-- Whether a line ends a block that opened in this way. -/
def Opening.closedBy (o : Opening) (line : List Char) : Bool :=
  match o with
  | .raw => closesRaw line
  | .comment => occursIn "-->".toList line
  | .instruction => occursIn ['?', '>'] line
  | .declaration => occursIn ['>'] line
  | .characterData => occursIn "]]>".toList line
  | .element => line.isEmpty
  | .tag => line.isEmpty

end ContentBlocks.Markdown.Html
