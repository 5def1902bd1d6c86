import ContentBlocks.Yaml.Layout
import ContentBlocks.Yaml.Node

/-!
# From tokens to nodes

A document is read from its tokens by descent.  Read so far are the anchors: each names a node, and
while a collection is still open its anchor names it as one that is around.  Collections with an
anchor are kept by their numbers for what stands for them inside.  A text holds one document at
most.
-/

namespace ContentBlocks.Yaml

/-- What is left to be read, and what is known from before. -/
structure Progress where
  tokens : List Token
  anchors : List (String × Node)
  handles : List (String × String)
  /-- The number of collections so far. -/
  count : Nat
  /-- The collections that have an anchor, by their numbers. -/
  known : List (Nat × Node)

/-- Reading of tokens. -/
abbrev Reading := StateT Progress (Except Failure)

namespace Reading

/-- The failure of a text that is not YAML. -/
def fail {α : Type} : Reading α := throw .malformed

/-- The next token, which stays. -/
def peek : Reading Token := do
  match (← get).tokens with
  | .fault f :: _ => throw f
  | t :: _ => return t
  | [] => fail

/-- Leaves the next token behind. -/
def drop : Reading PUnit := modify fun s => { s with tokens := s.tokens.tail }

/-- The full name of a tag. -/
def tagName (handle : Option String) (suffix : String) : Reading String := do
  match handle with
  | none => return suffix
  | some h =>
    match (← get).handles.lookup h with
    | some start => return start ++ suffix
    | none => fail

/-- An anchor, if one comes next. -/
def anchor? : Reading (Option String) := do
  match ← peek with
  | .anchor name => drop; return some name
  | _ => return none

/-- The name of a tag, if one comes next. -/
def tag? : Reading (Option String) := do
  match ← peek with
  | .tag handle suffix => drop; return some (← tagName handle suffix)
  | _ => return none

/-- The anchor and the tag before a node, in either order. -/
def properties : Reading (Option String × Option String) := do
  match ← anchor? with
  | some a => return (some a, ← tag?)
  | none =>
    match ← tag? with
    | some t => return (← anchor?, some t)
    | none => return (none, none)

/-- Sets what an anchor names. -/
def bind (anchor : Option String) (node : Node) : Reading PUnit :=
  match anchor with
  | none => pure ⟨⟩
  | some a => modify fun s => { s with anchors := (a, node) :: s.anchors }

/-- The number of the next collection. -/
def newNumber : Reading Nat := do
  let s ← get
  set { s with count := s.count + 1 }
  return s.count

/-- A collection under its anchor: while its parts are read, the anchor names what is around
them. -/
def collection {α : Type} (anchor : Option String) (isMapping : Bool) (parts : Reading α)
    (build : Nat → α → Node) : Reading Node := do
  let number ← newNumber
  bind anchor (.enclosing isMapping number)
  let node := build number (← parts)
  bind anchor node
  if anchor.isSome then modify fun s => { s with known := (number, node) :: s.known }
  return node

/-- The tag of a collection, `usual` where none is given. -/
def collectionTag (usual : Tag) (name : Option String) : Tag :=
  match name with
  | none => usual
  | some "!" => usual
  | some n => .ofName n

/-- The tag of a scalar; a plain one without a tag is taken for what it looks like, and one between
marks for a text. -/
def scalarTag (name : Option String) (wording : Wording) (plain : Bool) : Tag :=
  let byLooks : Tag :=
    match wording with
    | .text s => .ofPlain s
    | .broken _ => .str
  match name with
  | none => if plain then byLooks else .str
  | some "!" => byLooks
  | some n => .ofName n

/-- Whether a node is left out before a token that ends a block's key or value. -/
def isEntryEnd : Token → Bool
  | .key | .value | .blockEnd => true
  | _ => false

/-- Whether an item is left out before a token. -/
def isItemEnd : Token → Bool
  | .dash | .blockEnd => true
  | _ => false

/-- Whether a node is left out between brackets before a token. -/
def isFlowEnd (close : Token → Bool) : Token → Bool
  | .comma => true
  | t => close t

/-- The closing sign of a sequence. -/
def closesBracket : Token → Bool
  | .closeBracket => true
  | _ => false

/-- The closing sign of a mapping. -/
def closesBrace : Token → Bool
  | .closeBrace => true
  | _ => false

mutual

/-- A node.  `inBlock` says that blocks may begin, `bareDash` that a sequence may stand no deeper
than the key before it.  The first argument bounds the number of steps. -/
def node : Nat → Bool → Bool → Reading Node
  | 0, _, _ => fail
  | fuel + 1, inBlock, bareDash => do
    match ← peek with
    | .alias name =>
      drop
      match (← get).anchors.lookup name with
      | some n => return n
      | none => fail
    | _ =>
      let (anchor, tag) ← properties
      let known := (← get).anchors
      if anchor.any fun a => (known.lookup a).isSome then fail
      else match ← peek, inBlock, bareDash with
        | .dash, _, true =>
          collection anchor false (bareItems fuel) (.sequence (collectionTag .seq tag))
        | .scalar wording plain, _, _ =>
          drop
          let n := Node.scalar (scalarTag tag wording plain) wording
          bind anchor n
          return n
        | .openBracket, _, _ =>
          drop
          collection anchor false (flowItems fuel true) (.sequence (collectionTag .seq tag))
        | .openBrace, _, _ =>
          drop
          collection anchor true (flowEntries fuel true) (.mapping (collectionTag .map tag))
        | .sequenceStart, true, _ =>
          drop
          collection anchor false (blockItems fuel) (.sequence (collectionTag .seq tag))
        | .mappingStart, true, _ =>
          drop
          collection anchor true (blockEntries fuel) (.mapping (collectionTag .map tag))
        | _, _, _ =>
          if anchor.isSome || tag.isSome then
            let n := Node.scalar (scalarTag tag (.text "") true) (.text "")
            bind anchor n
            return n
          else fail

/-- A node, or its absence before a token that satisfies `absent`. -/
def nodeUnless (absent : Token → Bool) : Nat → Bool → Bool → Reading Node
  | 0, _, _ => fail
  | fuel + 1, inBlock, bareDash => do
    if absent (← peek) then return .absent else node fuel inBlock bareDash

/-- The items of a block, each behind a dash, up to the end of the block. -/
def blockItems : Nat → Reading (List Node)
  | 0 => fail
  | fuel + 1 => do
    match ← peek with
    | .dash =>
      drop
      let n ← nodeUnless isItemEnd fuel true false
      return n :: (← blockItems fuel)
    | .blockEnd => drop; return []
    | _ => fail

/-- Items behind dashes that stand no deeper than the key before them. -/
def bareItems : Nat → Reading (List Node)
  | 0 => fail
  | fuel + 1 => do
    match ← peek with
    | .dash =>
      drop
      let n ← nodeUnless (fun t => isItemEnd t || isEntryEnd t) fuel true false
      return n :: (← bareItems fuel)
    | _ => return []

/-- The entries of a block up to its end. -/
def blockEntries : Nat → Reading (List (Node × Node))
  | 0 => fail
  | fuel + 1 => do
    match ← peek with
    | .key =>
      drop
      let k ← nodeUnless isEntryEnd fuel true true
      let v ← match ← peek with
        | .value => do
          drop
          nodeUnless isEntryEnd fuel true true
        | _ => pure .absent
      return (k, v) :: (← blockEntries fuel)
    | .blockEnd => drop; return []
    | _ => fail

/-- The value behind a key between brackets, or its absence. -/
def flowValue (close : Token → Bool) : Nat → Reading Node
  | 0 => fail
  | fuel + 1 => do
    match ← peek with
    | .value =>
      drop
      nodeUnless (isFlowEnd close) fuel false false
    | _ => return .absent

/-- The key that stands behind its sign, and its value. -/
def flowPair (close : Token → Bool) : Nat → Reading (Node × Node)
  | 0 => fail
  | fuel + 1 => do
    drop
    let k ← match ← peek with
      | .value => pure .absent
      | _ => nodeUnless (isFlowEnd close) fuel false false
    return (k, ← flowValue close fuel)

/-- The items between brackets up to the closing one.  A key makes its item a mapping of one
entry. -/
def flowItems : Nat → Bool → Reading (List Node)
  | 0, _ => fail
  | fuel + 1, first => do
    if closesBracket (← peek) then
      drop
      return []
    else
      if !first then
        match ← peek with
        | .comma => drop
        | _ => fail
      match ← peek with
      | .closeBracket => drop; return []
      | .key =>
        let number ← newNumber
        let pair ← flowPair closesBracket fuel
        return .mapping .map number [pair] :: (← flowItems fuel false)
      | _ =>
        let n ← node fuel false false
        return n :: (← flowItems fuel false)

/-- The entries between braces up to the closing one.  A node without a value has none. -/
def flowEntries : Nat → Bool → Reading (List (Node × Node))
  | 0, _ => fail
  | fuel + 1, first => do
    if closesBrace (← peek) then
      drop
      return []
    else
      if !first then
        match ← peek with
        | .comma => drop
        | _ => fail
      match ← peek with
      | .closeBrace => drop; return []
      | .key =>
        let pair ← flowPair closesBrace fuel
        return pair :: (← flowEntries fuel false)
      | _ =>
        let k ← node fuel false false
        return (k, .absent) :: (← flowEntries fuel false)

end

/-! ### Documents -/

/-- The handles that every document knows. -/
def usualHandles : List (String × String) := [("!", "!"), ("!!", "tag:yaml.org,2002:")]

/-- The directives before a document, given whether its version is known already.  The first
argument bounds the number of steps. -/
def directives : Nat → Bool → Reading PUnit
  | 0, _ => fail
  | fuel + 1, versioned => do
    match ← peek with
    | .directive d =>
      drop
      match d with
      | .version major =>
        if versioned || major ≠ 1 then fail else directives fuel true
      | .tagHandle handle start =>
        if ((← get).handles.lookup handle).isSome then fail
        else
          modify fun s => { s with handles := (handle, start) :: s.handles }
          directives fuel versioned
      | .other => directives fuel versioned
    | _ => modify fun s => { s with handles := s.handles ++ usualHandles }

/-- Leaves the ends of documents behind.  The first argument bounds the number of steps. -/
def documentEnds : Nat → Reading PUnit
  | 0 => fail
  | fuel + 1 => do
    match ← peek with
    | .documentEnd => drop; documentEnds fuel
    | _ => pure ⟨⟩

/-- Whether a token ends an empty document. -/
def isDocumentEdge : Token → Bool
  | .directive _ | .documentStart | .documentEnd | .textEnd => true
  | _ => false

/-- The document of a text, if there is one; nothing but its end may follow. -/
def document? (fuel : Nat) : Reading (Option Node) := do
  let found ← match ← peek with
    | .textEnd => pure none
    | .directive _ | .documentStart => do
      directives fuel false
      match ← peek with
      | .documentStart => drop
      | _ => fail
      pure (some (← nodeUnless isDocumentEdge fuel true false))
    | _ => do
      modify fun s => { s with handles := usualHandles }
      pure (some (← node fuel true false))
  documentEnds fuel
  match ← peek with
  | .textEnd => return found
  | _ => fail

end Reading

/-- The document that a text holds, and the collections that can be named from inside. -/
def document? (cs : List Char) : Except Failure (Option Node × List (Nat × Node)) :=
  let ts := tokens cs
  ((Reading.document? (3 * ts.length + 10)).run ⟨ts, [], [], 0, []⟩).map fun (found, s) =>
    (found, s.known)

end ContentBlocks.Yaml
