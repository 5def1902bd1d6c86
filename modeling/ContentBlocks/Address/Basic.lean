import ContentBlocks.Address.Percent
import ContentBlocks.Address.Punycode
import ContentBlocks.Text.Letter

/-!
# Addresses

The addresses of links and images.  An address is taken apart and put together again, with the host
name written in ASCII and everything else percent-encoded where it has to be.  Addresses that would
run a program are refused.

## Main definitions

* `Address.of`: the parts of an address.
* `normalize`, `display`: how a document keeps an address, and how a text shows it.
* `isSafe`: whether an address may be linked to.
-/

namespace ContentBlocks

open Text

/-- The parts of an address. -/
structure Address where
  protocol : List Char
  slashes : Bool
  auth : List Char
  hostname : List Char
  portNumber : List Char
  rest : List Char

namespace Address

/-- Characters of a protocol name. -/
def isProtocolChar (c : Char) : Bool :=
  let c := fold c
  ('a' ≤ c && c ≤ 'z') || c.isDigit || c == '.' || c == '+' || c == '-'

/-- The protocol at the start of an address, its colon included, and what follows. -/
def takeProtocol (cs : List Char) : List Char × List Char :=
  let name := cs.takeWhile isProtocolChar
  match cs.dropWhile isProtocolChar with
  | ':' :: rest => if name.isEmpty then ([], cs) else (name ++ [':'], rest)
  | _ => ([], cs)

/-- Protocols that always have slashes before the host. -/
def slashedProtocols : List (List Char) :=
  ["http:", "https:", "ftp:", "gopher:", "file:"].map String.toList

/-- The one protocol without a host. -/
def scriptProtocol : List Char := "javascript:".toList

/-- Characters that cannot be part of a host. -/
def isNonHostChar (c : Char) : Bool := "%/?;#'\x7b\x7d|\\^\x60<>\" \r\n\t".toList.contains c

/-- A text without the user data before the last at sign that stands before the path. -/
def takeAuth (cs : List Char) : List Char × List Char :=
  let isEnd := fun c => c == '/' || c == '?' || c == '#'
  let early := cs.takeWhile (!isEnd ·)
  if early.contains '@' then
    let back := early.reverse
    let host := (back.takeWhile (· ≠ '@')).reverse
    let auth := ((back.dropWhile (· ≠ '@')).drop 1).reverse
    (auth, host ++ cs.dropWhile (!isEnd ·))
  else ([], cs)

/-- The port number at the end of a host, and the host without it. -/
def takePortNumber (host : List Char) : List Char × List Char :=
  let back := host.reverse
  match back.dropWhile Char.isDigit with
  | ':' :: name => ((back.takeWhile Char.isDigit).reverse, name.reverse)
  | _ => ([], host)

/-- Characters of the parts of a host name. -/
def isHostPartChar (c : Char) : Bool :=
  c.isAlphanum || c == '+' || c == '_' || c == '-'

/-- Whether a part of a host name is acceptable; characters outside ASCII are. -/
def isHostPart (cs : List Char) : Bool :=
  cs.length ≤ 63 && cs.all fun c => c.toNat > 127 || isHostPartChar c

/-- The acceptable start of the parts of a host name, and the text that is none. -/
def cutHost : List (List Char) → List (List Char) × Option (List (List Char))
  | [] => ([], none)
  | part :: parts =>
    if isHostPart part then
      let (valid, bad) := cutHost parts
      (part :: valid, bad)
    else
      let good := (part.take 63).takeWhile isHostPartChar
      ([good], some (part.drop good.length :: parts))

/-- Pieces with a dot between them. -/
def joinDots (parts : List (List Char)) : List Char := List.intercalate ['.'] parts

/-- A host name checked, and what it gives back to the path. -/
def checkHost (name : List Char) : List Char × List Char :=
  if name.head? = some '[' && name.getLast? = some ']' then
    if name.length > 255 then ([], []) else ((name.drop 1).dropLast, [])
  else
    let (valid, bad) := cutHost (splitAt '.' name)
    let host := joinDots valid
    (if host.length > 255 then [] else host, (bad.map joinDots).getD [])

/-- The parts of an address. -/
def of (cs : List Char) : Address :=
  let (protocol, rest) := takeProtocol (strip cs)
  let startsSlashed := (after? ['/', '/'] rest).isSome
  let hostless := protocol = scriptProtocol
  let slashes := startsSlashed && !hostless
  let rest := if slashes then rest.drop 2 else rest
  if !hostless && (startsSlashed || (!protocol.isEmpty && !slashedProtocols.contains protocol)) then
    let (auth, rest) := takeAuth rest
    let host := rest.takeWhile (!isNonHostChar ·)
    let host := if host.getLast? = some ':' then host.dropLast else host
    let rest := rest.drop host.length
    let (portNumber, name) := takePortNumber host
    let (hostname, back) := checkHost name
    ⟨protocol, slashes, auth, hostname, portNumber, back ++ rest⟩
  else ⟨protocol, slashes, [], [], [], rest⟩

/-- An address put together. -/
def join (a : Address) : List Char :=
  a.protocol ++ (if a.slashes then ['/', '/'] else []) ++
    (if a.auth.isEmpty then [] else a.auth ++ ['@']) ++
    (if a.hostname.contains ':' then '[' :: a.hostname ++ [']'] else a.hostname) ++
    (if a.portNumber.isEmpty then [] else ':' :: a.portNumber) ++ a.rest

/-- The characters that part the labels of a host name. -/
def isLabelDot (c : Char) : Bool := c == '.' || c == '\u3002' || c == '\uFF0E' || c == '\uFF61'

/-- The labels of a host name. -/
def labels : List Char → List (List Char)
  | [] => [[]]
  | c :: cs =>
    if isLabelDot c then [] :: labels cs
    else match labels cs with
      | [] => [[c]]
      | l :: ls => (c :: l) :: ls

/-- A host name with its labels changed; what stands before an at sign is kept, and what stands
after a second one is lost. -/
def mapLabels (f : List Char → Option (List Char)) (name : List Char) : Option (List Char) :=
  match splitAt '@' name with
  | user :: domain :: _ => do
    let ls ← (labels domain).mapM f
    return user ++ '@' :: joinDots ls
  | _ => do
    let ls ← (labels name).mapM f
    return joinDots ls

/-- A label in ASCII. -/
def labelToAscii (l : List Char) : List Char :=
  if l.any (·.toNat > 126) then "xn--".toList ++ Punycode.encode l else l

/-- A label for display. -/
def labelToText? (l : List Char) : Option (List Char) :=
  match after? "xn--".toList l with
  | some code => Punycode.decode? (lower code)
  | none => some l

/-- Whether the host name of an address may be changed. -/
def hasPlainHost (a : Address) : Bool :=
  !a.hostname.isEmpty &&
    (a.protocol.isEmpty || ["http:", "https:", "mailto:"].contains (String.ofList a.protocol))

/-- An address with its host name changed, where that can be done. -/
def withHost (f : List Char → Option (List Char)) (a : Address) : Address :=
  if a.hasPlainHost then
    match mapLabels f a.hostname with
    | some name => { a with hostname := name }
    | none => a
  else a

/-- How a document keeps an address. -/
def normalize (cs : List Char) : List Char :=
  encode ((of cs).withHost fun l => some (labelToAscii l)).join

/-- How a text shows an address. -/
def display (cs : List Char) : List Char := decode ((of cs).withHost labelToText?).join

/-- Protocols that are refused. -/
def unsafeProtocols : List (List Char) :=
  ["vbscript:", "javascript:", "file:", "data:"].map String.toList

/-- Data that is allowed all the same. -/
def safeData : List (List Char) :=
  ["data:image/gif;", "data:image/png;", "data:image/jpeg;", "data:image/webp;"].map String.toList

/-- Whether an address may be linked to. -/
def isSafe (cs : List Char) : Bool :=
  let cs := lower (strip cs)
  let starts := fun (p : List Char) => (after? p cs).isSome
  !unsafeProtocols.any starts || safeData.any starts

end Address

end ContentBlocks
