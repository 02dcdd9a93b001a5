import SearchLink.Yaml.Token

/-!
# `SearchLink.Yaml.Node`: YAML documents as trees

`Node.ofText?` reads a text that holds one document, or none. A node is a text, a sequence, a
mapping or a reference to a node that an anchor names. References stay in the tree, because a
node may refer to one that contains it; `Node.anchors` lists what they stand for.

The readers take tokens off a list and follow the grammar, one function for each of its rules.
-/

set_option autoImplicit false

namespace SearchLink.Yaml

/-- A value of a YAML document. -/
inductive Node where
  /-- A text. -/
  | scalar (tag : Option Text) (style : Style) (text : Text)
  /-- Values in order. -/
  | sequence (items : List Node)
  /-- Keys and their values, in order. -/
  | mapping (entries : List (Node × Node))
  /-- A node that an anchor names. -/
  | anchored (number : Nat) (node : Node)
  /-- A reference to the node of an anchor. -/
  | reference (number : Nat)
  deriving Repr

/-- The node that stands where nothing is written. -/
def Node.nothing : Node := .scalar none .plain []

/-! ### The state of a reader -/

/-- What is left to read, and what has been said so far. -/
structure Input where
  /-- The tokens that are left. -/
  tokens : List Token
  /-- The anchors that have been given, latest first, with their numbers. -/
  anchors : List (Text × Nat) := []
  /-- What the handles of tags stand for. -/
  handles : List (Text × Text) := []

/-- A reader of some part of a document. -/
abbrev Reader (α : Type) := StateT Input Option α

namespace Reader

/-- The next token. -/
def peek : Reader (Option Token) := do return (← get).tokens.head?

/-- Takes the next token off. -/
def drop : Reader Unit := modify fun s => { s with tokens := s.tokens.drop 1 }

/-- Takes the next token off if it is the given one. -/
def accept (t : Token) : Reader Bool := do
  if (← peek) = some t then
    drop
    return true
  else return false

/-- Takes the next token off, which must be the given one. -/
def expect (t : Token) : Reader Unit := do
  if !(← accept t) then failure

/-- Whether the next token is one of some. -/
def isNext (ts : List Token) : Reader Bool := do
  return (← peek).any ts.contains

/-- The full form of a tag. -/
def expandTag (t : Tag) : Reader Text := do
  if t.handle.isEmpty then return t.suffix
  else
    match (← get).handles.lookup t.handle with
    | some expansion => return expansion ++ t.suffix
    | none => failure

/-- Gives an anchor its number: how many names have been given before. A name that is given
again counts once. -/
def giveAnchor (name : Text) : Reader Nat := do
  let s ← get
  let number := s.anchors.length
  set { s with anchors := (name, number) :: s.anchors.filter fun a => a.1 ≠ name }
  return number

/-- Reads an anchor, if there is one. -/
def anchor? : Reader (Option Text) := do
  match ← peek with
  | some (.anchor name) =>
    drop
    return some name
  | _ => return none

/-- Reads a tag, if there is one. -/
def tag? : Reader (Option Tag) := do
  match ← peek with
  | some (.tag t) =>
    drop
    return some t
  | _ => return none

/-- Reads an anchor and a tag in either order; each may be missing. -/
def properties : Reader (Option Text × Option Tag) := do
  match ← anchor? with
  | some name => return (some name, ← tag?)
  | none =>
    match ← tag? with
    | some t => return (← anchor?, some t)
    | none => return (none, none)

end Reader

open Reader

/-! ### The grammar

`fuel` bounds the depth and the length of what is read; every rule uses up tokens, so a few
times their number is enough. -/

mutual

/-- Reads a node. `inBlock` says whether it may be an indented sequence or mapping, and
`inMapping` whether it may be a sequence that is not indented further than its key. -/
def readNode : (fuel : Nat) → (inBlock inMapping : Bool) → Reader Node
  | 0, _, _ => failure
  | fuel + 1, inBlock, inMapping => do
    match ← peek with
    | some (.reference name) =>
      drop
      match (← get).anchors.lookup name with
      | some number => return .reference number
      | none => failure
    | _ =>
      let (name, tag) ← properties
      let number ←
        match name with
        | some name => do pure (some (← giveAnchor name))
        | none => pure none
      let tag ←
        match tag with
        | some t => do pure (some (← expandTag t))
        | none => pure none
      let node ← readContent fuel inBlock inMapping (number.isSome || tag.isSome) tag
      return (number.map fun n => Node.anchored n node).getD node

/-- Reads a node behind its properties. With properties it may be left out. -/
def readContent : (fuel : Nat) → (inBlock inMapping mayBeEmpty : Bool) →
    (tag : Option Text) → Reader Node
  | 0, _, _, _, _ => failure
  | fuel + 1, inBlock, inMapping, mayBeEmpty, tag => do
    match ← peek with
    | some .blockEntry =>
      if inMapping then return .sequence (← readFlatItems fuel)
      else if mayBeEmpty then return .scalar tag .plain []
      else failure
    | some (.scalar style text) =>
      drop
      return .scalar tag style text
    | some .flowSequenceStart =>
      drop
      return .sequence (← readFlowItems fuel true)
    | some .flowMappingStart =>
      drop
      return .mapping (← readFlowEntries fuel true)
    | some .blockSequenceStart =>
      if inBlock then
        drop
        return .sequence (← readBlockItems fuel)
      else if mayBeEmpty then return .scalar tag .plain []
      else failure
    | some .blockMappingStart =>
      if inBlock then
        drop
        return .mapping (← readBlockEntries fuel)
      else if mayBeEmpty then return .scalar tag .plain []
      else failure
    | _ => if mayBeEmpty then return .scalar tag .plain [] else failure

/-- Reads a node, unless one of some tokens shows that it is left out. -/
def readUnless : (fuel : Nat) → (inBlock inMapping : Bool) → List Token → Reader Node
  | 0, _, _, _ => failure
  | fuel + 1, inBlock, inMapping, ts => do
    if ← isNext ts then return .nothing else readNode fuel inBlock inMapping

/-- Reads the items of an indented sequence. -/
def readBlockItems : (fuel : Nat) → Reader (List Node)
  | 0 => failure
  | fuel + 1 => do
    if ← accept .blockEntry then
      let item ← readUnless fuel true false [.blockEntry, .blockEnd]
      return item :: (← readBlockItems fuel)
    else
      expect .blockEnd
      return []

/-- Reads the items of a sequence that is not indented further than its key. -/
def readFlatItems : (fuel : Nat) → Reader (List Node)
  | 0 => failure
  | fuel + 1 => do
    if ← accept .blockEntry then
      let item ← readUnless fuel true false [.blockEntry, .key, .value, .blockEnd]
      return item :: (← readFlatItems fuel)
    else return []

/-- Reads the entries of an indented mapping. -/
def readBlockEntries : (fuel : Nat) → Reader (List (Node × Node))
  | 0 => failure
  | fuel + 1 => do
    if ← accept .key then
      let key ← readUnless fuel true true [.key, .value, .blockEnd]
      let value ←
        if ← accept .value then readUnless fuel true true [.key, .value, .blockEnd]
        else pure .nothing
      return (key, value) :: (← readBlockEntries fuel)
    else
      expect .blockEnd
      return []

/-- Reads the items of a bracketed sequence. An item with a colon is a mapping of its own. -/
def readFlowItems : (fuel : Nat) → (isFirst : Bool) → Reader (List Node)
  | 0, _ => failure
  | fuel + 1, isFirst => do
    if ← accept .flowSequenceEnd then return []
    else
      if !isFirst then expect .flowEntry
      if ← accept .flowSequenceEnd then return []
      else
        let item ←
          if ← accept .key then do
            let key ← readPairKey fuel
            let value ←
              if ← accept .value then readUnless fuel false false [.flowEntry, .flowSequenceEnd]
              else pure .nothing
            pure (Node.mapping [(key, value)])
          else readNode fuel false false
        return item :: (← readFlowItems fuel false)

/-- Reads the key of a mapping of one entry. The token that shows that it is left out is
taken off. -/
def readPairKey : (fuel : Nat) → Reader Node
  | 0 => failure
  | fuel + 1 => do
    if ← isNext [.value, .flowEntry, .flowSequenceEnd] then
      drop
      return .nothing
    else readNode fuel false false

/-- Reads the entries of a braced mapping. -/
def readFlowEntries : (fuel : Nat) → (isFirst : Bool) → Reader (List (Node × Node))
  | 0, _ => failure
  | fuel + 1, isFirst => do
    if ← accept .flowMappingEnd then return []
    else
      if !isFirst then expect .flowEntry
      if ← accept .flowMappingEnd then return []
      else
        let ends := [Token.flowEntry, .flowMappingEnd]
        let entry ←
          if ← accept .key then do
            let key ← readUnless fuel false false (.value :: ends)
            let value ←
              if ← accept .value then readUnless fuel false false ends else pure .nothing
            pure (key, value)
          else do pure (← readNode fuel false false, Node.nothing)
        return entry :: (← readFlowEntries fuel false)

end

/-! ### Documents -/

/-- The handles that need no directive. -/
def standardHandles : List (Text × Text) :=
  [(['!'], ['!']), (['!', '!'], "tag:yaml.org,2002:".toList)]

/-- Reads the directives of a document: at most one version, which must be 1.1 or 1.2, and one
expansion for each handle. -/
def readDirectives : (fuel : Nat) → (hasVersion : Bool) → Reader Unit
  | 0, _ => failure
  | fuel + 1, hasVersion => do
    match ← peek with
    | some (.directive (.version major minor)) =>
      if hasVersion || major ≠ 1 || (minor ≠ 1 && minor ≠ 2) then failure
      else
        drop
        readDirectives fuel true
    | some (.directive (.tag handle expansion)) =>
      drop
      let s ← get
      if (s.handles.lookup handle).isSome then failure
      else
        set { s with handles := (handle, expansion) :: s.handles }
        readDirectives fuel hasVersion
    | _ => return ()

/-- Reads a document that begins with directives or a mark. -/
def readExplicit (fuel : Nat) : Reader Node := do
  readDirectives fuel false
  expect .documentStart
  modify fun s => { s with handles := s.handles ++ standardHandles }
  match ← peek with
  | none => return .nothing
  | some .documentStart => return .nothing
  | some .documentEnd => return .nothing
  | some (.directive _) => return .nothing
  | some _ => readNode fuel true false

/-- Reads the document of a text, if there is one. -/
def readDocument (fuel : Nat) : Reader (Option Node) := do
  match ← peek with
  | none => return none
  | some .documentStart => return some (← readExplicit fuel)
  | some (.directive _) => return some (← readExplicit fuel)
  | some _ =>
    modify fun s => { s with handles := standardHandles }
    return some (← readNode fuel true false)

/-- The document of a text: `none` when the text is not well-formed or holds several
documents, and `some none` when it holds nothing but comments. -/
def Node.ofText? (t : Text) : Option (Option Node) := do
  let tokens ← Token.ofText? t
  let (node, s) ← (readDocument (4 * tokens.length + 4)).run { tokens }
  if s.tokens.all (· = .documentEnd) then return node else none

/-! ### References -/

mutual

/-- The anchored nodes of a node, in the order in which they begin. -/
def Node.anchors : Node → List (Nat × Node)
  | .scalar .. => []
  | .sequence items => itemAnchors items
  | .mapping entries => entryAnchors entries
  | .anchored number node => (number, node) :: node.anchors
  | .reference _ => []

/-- The anchored nodes of a sequence. -/
def itemAnchors : List Node → List (Nat × Node)
  | [] => []
  | n :: ns => n.anchors ++ itemAnchors ns

/-- The anchored nodes of a mapping. -/
def entryAnchors : List (Node × Node) → List (Nat × Node)
  | [] => []
  | (k, v) :: es => k.anchors ++ v.anchors ++ entryAnchors es

end

/-- The last node that a number was given to. -/
def lastAnchored? (anchors : List (Nat × Node)) (number : Nat) : Option Node :=
  (anchors.reverse.find? fun a => a.1 = number).map (·.2)

/-- A node without its anchor, or what it refers to. -/
def Node.resolve? (anchors : List (Nat × Node)) : Node → Option Node
  | .anchored _ node => some node
  | .reference number => lastAnchored? anchors number
  | node => some node

end SearchLink.Yaml
