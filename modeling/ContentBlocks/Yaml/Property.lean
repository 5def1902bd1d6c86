import ContentBlocks.Text.Numeral
import ContentBlocks.Text.Utf8
import ContentBlocks.Yaml.Place
import ContentBlocks.Yaml.Token

/-!
# Anchors, tags and directives

The parts of a YAML text that say something about a node or about the whole document: the name under
which a node is found again, the tag that fixes its kind, and the lines before a document.
-/

namespace ContentBlocks.Yaml

/-- What follows the name of an anchor or alias. -/
def endsName (c : Option Char) : Bool :=
  endsWord c || c.any (['?', ':', ',', ']', '\x7d', '%', '@', '\x60'].contains ·)

/-- The name of an anchor or alias, from the place after its sign on. -/
def anchorName (p : Place) : Except Failure (String × Place) :=
  let name := p.taken isNameChar
  let p := p.advance name.length
  if name.isEmpty || !endsName p.head? then .error .malformed else .ok (.ofList name, p)

/-! ### Tags -/

/-- The characters of a tag. -/
def isTagChar (c : Char) : Bool :=
  c.isAlphanum || "-;/?:@&=+$,_.!~*'()[]%".toList.contains c

/-- The bytes that a run of percent signs, each with two hexadecimal digits, stands for. -/
def percentBytes? : List Char → Option (List UInt8 × Nat)
  | '%' :: a :: b :: cs => do
    let high ← Text.hexValue? a
    let low ← Text.hexValue? b
    let (bytes, n) ← percentBytes? cs
    return (UInt8.ofNat (high * 16 + low) :: bytes, n + 3)
  | '%' :: _ => none
  | _ => some ([], 0)

/-- The text of a tag, its percent signs resolved.  The first argument bounds the number of
steps. -/
def tagText : Nat → Place → Except Failure (List Char × Place)
  | 0, _ => .error .malformed
  | fuel + 1, p =>
    match p.rest with
    | '%' :: _ =>
      match percentBytes? p.rest with
      | some (bytes, n) =>
        match Text.ofUtf8? bytes with
        | some piece => do
          let (text, p) ← tagText fuel (p.advance n)
          return (piece.toList ++ text, p)
        | none => .error .malformed
      | none => .error .malformed
    | c :: _ =>
      if isTagChar c then do
        let (text, p) ← tagText fuel p.next
        return (c :: text, p)
      else .ok ([], p)
    | [] => .ok ([], p)

/-- The text of a tag, which is not empty. -/
def tagSuffix (p : Place) : Except Failure (String × Place) := do
  let (text, q) ← tagText (p.rest.length + 1) p
  if q.offset = p.offset then .error .malformed else return (.ofList text, q)

/-- The handle of a tag: a sign, or a name between two of them. -/
def tagHandle (p : Place) : Except Failure (String × Place) :=
  match p.rest with
  | '!' :: cs =>
    let name := cs.takeWhile isNameChar
    if cs.head? = some ' ' then .ok ("!", p.next)
    else if cs[name.length]? = some '!' then
      .ok (.ofList ('!' :: name ++ ['!']), p.advance (name.length + 2))
    else .error .malformed
  | _ => .error .malformed

/-- Whether the sign at the start of a tag has a second one after it, so that a handle is given. -/
def hasHandle (cs : List Char) : Bool := (cs.takeWhile fun c => !endsField (some c)).contains '!'

/-- A tag, as its handle and its suffix, from its sign on. -/
def tagProperty (p : Place) : Except Failure (Token × Place) := do
  let after := p.next
  let (handle, suffix, p) ←
    if after.head? = some '<' then do
      let (suffix, p) ← tagSuffix after.next
      if p.head? = some '>' then pure (none, suffix, p.next) else .error .malformed
    else if endsWord after.head? then pure (none, "!", after)
    else if hasHandle after.rest then do
      let (handle, p) ← tagHandle p
      let (suffix, p) ← tagSuffix p
      pure (some handle, suffix, p)
    else do
      let (suffix, p) ← tagSuffix after
      pure (some "!", suffix, p)
  if endsField p.head? then return (.tag handle suffix, p) else .error .malformed

/-! ### Directives -/

/-- A run of digits, and the place after it. -/
def directiveNumber (p : Place) : Except Failure (Nat × Place) :=
  let ds := p.taken Char.isDigit
  if ds.isEmpty then .error .malformed
  else if ds.length > Text.maxDigits then .error (.tooManyDigits ds.length)
  else .ok (Text.ofDigits 10 (ds.map fun c => c.toNat - 48), p.advance ds.length)

/-- The value of a directive with a name. -/
def directiveValue (name : String) (p : Place) : Except Failure (Directive × Place) :=
  match name with
  | "YAML" => do
    let (major, p) ← directiveNumber (p.skip (· == ' '))
    if p.head? ≠ some '.' then .error .malformed
    else
      let (_, p) ← directiveNumber p.next
      if endsField p.head? then return (.version major, p) else .error .malformed
  | "TAG" => do
    let (handle, p) ← tagHandle (p.skip (· == ' '))
    if p.head? ≠ some ' ' then .error .malformed
    else
      let (start, p) ← tagSuffix (p.skip (· == ' '))
      if endsField p.head? then return (.tagHandle handle start, p) else .error .malformed
  | _ => .ok (.other, p.skip fun c => !isBreak c)

/-- A directive, from its sign on, and the place of the next line. -/
def directive (p : Place) : Except Failure (Token × Place) := do
  let name := p.next.taken isNameChar
  let p := p.next.advance name.length
  if name.isEmpty || !endsField p.head? then .error .malformed
  else
    let (d, p) ← directiveValue (.ofList name) p
    let p := p.afterComment
    if endsLine p.head? then return (.directive d, p.skipBreak) else .error .malformed

end ContentBlocks.Yaml
