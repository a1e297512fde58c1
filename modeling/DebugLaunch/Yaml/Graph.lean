import DebugLaunch.Yaml.Tag
import DebugLaunch.Yaml.Token

/-! The document that tokens write, as a graph: a value may have an anchor, and an alias stands for
the value with that anchor, so that one node can be part of several others. Nodes are known by
their numbers, in the order in which they begin. A fault of the text counts only when the tokens in
front of it are used up. -/
namespace DebugLaunch.Yaml

/-- What a node consists of, with the numbers of its parts. -/
inductive Content where
  | scalar (written : Written)
  | sequence (items : List Nat)
  | mapping (entries : List (Nat × Nat))
  deriving DecidableEq, Repr, Inhabited

/-- The content of a scalar that is not written. -/
def Content.missing : Content := .scalar (.text [])

/-- The shape of a content. -/
def Content.shape : Content → Shape
  | scalar _ => .scalar
  | sequence _ => .sequence
  | mapping _ => .mapping

/-- A node: its tag, its content, and the place where it starts. -/
structure Node where
  tag : Tag
  content : Content
  start : Mark
  deriving DecidableEq, Repr, Inhabited

/-- The nodes of a document. -/
abbrev Graph := Array Node

namespace Graph

/-- A document that is being read: the tokens left and the fault behind them, the nodes so far, the
numbers of those with an anchor, what the handles of tags stand for, and how many nodes are open. -/
structure Reading where
  tokens : List Placed
  fault : Option Fault := none
  nodes : Graph := #[]
  anchors : List (Text × Nat) := []
  handles : List (Text × Text) := []
  depth : Nat := 0
  deriving Inhabited

/-- A step of reading a document. -/
abbrev Reader := StateT Reading (Except Fault)

/-- How many nodes may be open at once. It stands for the limit of the recursion that reads a
document, which is counted in calls there and depends on how deep the caller is already; so the
number is exact only up to some nodes. -/
def maxDepth : Nat := 480

/-- The next token with its places, which stays. -/
def peek : Reader Placed := do
  match (← get).tokens, (← get).fault with
  | placed :: _, _ => return placed
  | [], some fault => throw fault
  | [], none => return ⟨.streamEnd, {}, {}⟩

/-- Goes on behind the next token. -/
def advance : Reader Unit := modify fun reading => { reading with tokens := reading.tokens.tail }

/-- Goes on behind the next token if it is the given one, and gives it then. -/
def accept? (token : Token) : Reader (Option Placed) := do
  let placed ← peek
  if placed.token = token then
    advance
    return some placed
  else return none

/-- Goes on behind the next token if it is the given one; tells whether it is. -/
def accept (token : Token) : Reader Bool := do
  return (← accept? token).isSome

/-- Goes on behind the next token, which has to be the given one in what began at a place. -/
def expect (token : Token) (activity : Activity) (start : Mark) (problem : Text → Problem) :
    Reader Unit := do
  unless ← accept token do
    let found ← peek
    throw (.foundIn activity start found.start (problem found.token.name))

/-- Whether the next token is one of those given. -/
def sees (tokens : List Token) : Reader Bool := do
  return tokens.contains (← peek).token

/-- Adds a node. -/
def addNode (node : Node) : Reader Nat :=
  modifyGet fun reading =>
    (reading.nodes.size, { reading with nodes := reading.nodes.push node })

/-- Adds a plain scalar that is not written. -/
def addMissing (place : Mark) : Reader Nat := addNode ⟨.null, .missing, place⟩

/-- Reads a part, unless one of the given tokens comes: then the part is missing, behind the token
in front of it. -/
def readUnless (ends : List Token) (before : Placed) (read : Reader Nat) : Reader Nat := do
  if ← sees ends then addMissing before.stop else read

/-- Reads the value behind a colon if there is one, unless one of the given tokens comes. -/
def readValue (ends : List Token) (read : Reader Nat) : Reader Nat := do
  match ← accept? .value with
  | some sign => readUnless ends sign read
  | none => addMissing (← peek).start

/-- Gives the node with a number an anchor. -/
def setAnchor (anchor : Option Text) (number : Nat) : Reader Unit :=
  match anchor with
  | none => pure ()
  | some name => modify fun reading => { reading with anchors := (name, number) :: reading.anchors }

/-- Checks that no node has the anchor that one starting at a place shall have. -/
def checkAnchor (anchor : Option Text) (start : Mark) : Reader Unit := do
  let reading ← get
  match anchor.bind fun name => (reading.anchors.lookup name).map fun number => (name, number) with
  | none => return ()
  | some (name, number) =>
    let first := (reading.nodes.getD number default).start
    throw (.foundIn (.repeatedAnchor name) first start .secondAnchor)

/-- A tag as it is written: its handle, the rest of it, and where it starts. -/
structure WrittenTag where
  handle : Option Text
  suffix : Text
  start : Mark

/-- What can stand in front of a value: where it starts, the anchor, and the tag. -/
structure Properties where
  start : Option Mark := none
  anchor : Option Text := none
  tag : Option WrittenTag := none

/-- The anchor and the tag in front of a value, in either order. -/
def properties : Reader Properties := do
  let first ← peek
  match first.token with
  | .anchor name => do
    advance
    let second ← peek
    match second.token with
    | .tag handle suffix => do
      advance
      return ⟨first.start, name, some ⟨handle, suffix, second.start⟩⟩
    | _ => return ⟨first.start, name, none⟩
  | .tag handle suffix => do
    advance
    let tag : WrittenTag := ⟨handle, suffix, first.start⟩
    match (← peek).token with
    | .anchor name => do
      advance
      return ⟨first.start, name, tag⟩
    | _ => return ⟨first.start, none, tag⟩
  | _ => return {}

/-- The name of the tag in front of a value: what its handle stands for, and the rest of it. -/
def tagName (properties : Properties) : Reader (Option Text) := do
  match properties.tag with
  | none => return none
  | some tag =>
    match tag.handle with
    | none => return some tag.suffix
    | some handle =>
      match (← get).handles.lookup handle with
      | some stem => return some (stem ++ tag.suffix)
      | none =>
        let start := properties.start.getD tag.start
        throw (.foundIn .node start tag.start (.unknownHandle handle))

/-- The tag of a value with a tag's name, or else the one given. -/
def tagOr (other : Tag) : Option Text → Tag
  | none => other
  | some name => if name = ['!'] then other else Tag.ofName name

/-- The tag of a scalar. One that is plain, or that has the tag `!`, has the tag of its looks. -/
def scalarTag (name : Option Text) (written : Written) (form : Form) : Tag :=
  let implied := name = some ['!'] || (name.isNone && form = .plain)
  let tag : Tag := match written with
    | .text text => if implied then Tag.ofLooks text else .string
    | .broken _ => .string
  tagOr tag name

/-- Where a value stands: whether blocks may begin there, and whether it may be the entries of a
sequence that are not indented. -/
inductive Position where
  | inFlow
  | inBlock
  | ofKey
  deriving DecidableEq, Repr

/-- What is being read where no value begins. -/
def Position.activity : Position → Activity
  | inFlow => .flowNode
  | inBlock | ofKey => .blockNode

/-- What is in front of a value, with the name of its tag and the place where the value starts. -/
structure Opening where
  start : Mark
  anchor : Option Text
  name : Option Text

/-- Adds the node of a scalar or of a value that is not written. -/
def addScalar (opening : Opening) (tag : Tag) (content : Content) : Reader Nat := do
  checkAnchor opening.anchor opening.start
  let number ← addNode ⟨tag, content, opening.start⟩
  setAnchor opening.anchor number
  return number

/-- Adds the node of a collection, whose parts are read only when it has its anchor. -/
def addCollection (opening : Opening) (tag : Tag) (read : Reader Content) : Reader Nat := do
  checkAnchor opening.anchor opening.start
  if maxDepth ≤ (← get).depth then throw .tooDeep
  let tag := tagOr tag opening.name
  let number ← addNode ⟨tag, .missing, opening.start⟩
  setAnchor opening.anchor number
  modify fun reading => { reading with depth := reading.depth + 1 }
  let content ← read
  modify fun reading =>
    { reading with
      nodes := reading.nodes.setIfInBounds number ⟨tag, content, opening.start⟩
      depth := reading.depth - 1 }
  return number

/-- Goes on where only the anchor or the tag of a value is written, or nothing is. -/
def readNothing (opening : Opening) (position : Position) (found : Placed) : Reader Nat := do
  if opening.anchor.isNone && opening.name.isNone then
    throw (.foundIn position.activity opening.start found.start (.notAContent found.token.name))
  addScalar opening (tagOr .null opening.name) .missing

mutual

/-- Reads a value. -/
def readNode : Nat → Position → Reader Nat
  | 0, _ => throw .tooDeep
  | fuel + 1, position => do
    let first ← peek
    match first.token with
    | .aliasOf name => do
      advance
      match (← get).anchors.lookup name with
      | some number => return number
      | none => throw (.found first.start (.unknownAlias name))
    | _ => do
      let properties ← properties
      let name ← tagName properties
      let next ← peek
      let opening : Opening := ⟨properties.start.getD next.start, properties.anchor, name⟩
      let block := position != .inFlow
      match next.token with
      | .scalar written form => do
        advance
        addScalar opening (scalarTag name written form) (.scalar written)
      | .blockEntry =>
        if position = .ofKey then
          addCollection opening .sequence (do return .sequence (← readUnindented fuel))
        else readNothing opening position next
      | .flowSequenceStart =>
        addCollection opening .sequence do
          advance
          return .sequence (← readFlowItems fuel next.start true)
      | .flowMappingStart =>
        addCollection opening .mapping do
          advance
          return .mapping (← readFlowEntries fuel next.start true)
      | .blockSequenceStart =>
        if block then
          addCollection opening .sequence do
            advance
            return .sequence (← readBlockItems fuel next.start)
        else readNothing opening position next
      | .blockMappingStart =>
        if block then
          addCollection opening .mapping do
            advance
            return .mapping (← readBlockEntries fuel next.start)
        else readNothing opening position next
      | _ => readNothing opening position next

/-- Reads the entries of an indented sequence, up to its end. -/
def readBlockItems : Nat → Mark → Reader (List Nat)
  | 0, _ => throw .tooDeep
  | fuel + 1, start => do
    match ← accept? .blockEntry with
    | some sign => do
      let item ← readUnless [.blockEntry, .blockEnd] sign (readNode fuel .inBlock)
      return item :: (← readBlockItems fuel start)
    | none => do
      expect .blockEnd .blockSequence start .notBlockEnd
      return []

/-- Reads the entries of a sequence that is not indented. -/
def readUnindented : Nat → Reader (List Nat)
  | 0 => throw .tooDeep
  | fuel + 1 => do
    match ← accept? .blockEntry with
    | some sign => do
      let ends : List Token := [.blockEntry, .key, .value, .blockEnd]
      let item ← readUnless ends sign (readNode fuel .inBlock)
      return item :: (← readUnindented fuel)
    | none => return []

/-- Reads the entries of a mapping in a block, up to its end. -/
def readBlockEntries : Nat → Mark → Reader (List (Nat × Nat))
  | 0, _ => throw .tooDeep
  | fuel + 1, start => do
    match ← accept? .key with
    | some sign => do
      let ends : List Token := [.key, .value, .blockEnd]
      let key ← readUnless ends sign (readNode fuel .ofKey)
      let value ← readValue ends (readNode fuel .ofKey)
      return (key, value) :: (← readBlockEntries fuel start)
    | none => do
      expect .blockEnd .blockMapping start .notBlockEnd
      return []

/-- Reads the items of a sequence in brackets, up to its end. A pair with a colon is a mapping of
its own. -/
def readFlowItems : Nat → Mark → Bool → Reader (List Nat)
  | 0, _, _ => throw .tooDeep
  | fuel + 1, start, first => do
    if ← accept .flowSequenceEnd then return []
    unless first do expect .flowEntry .flowSequence start .notSequenceComma
    let next ← peek
    if next.token = .key then
      let item ← addCollection ⟨next.start, none, none⟩ .mapping do
        advance
        let ends : List Token := [.flowEntry, .flowSequenceEnd]
        let key ← readUnless (.value :: ends) next (readNode fuel .inFlow)
        let value ← readValue ends (readNode fuel .inFlow)
        return .mapping [(key, value)]
      return item :: (← readFlowItems fuel start false)
    else if ← accept .flowSequenceEnd then return []
    else do
      let item ← readNode fuel .inFlow
      return item :: (← readFlowItems fuel start false)

/-- Reads the entries of a mapping in braces, up to its end. A key may stand without a value. -/
def readFlowEntries : Nat → Mark → Bool → Reader (List (Nat × Nat))
  | 0, _, _ => throw .tooDeep
  | fuel + 1, start, first => do
    if ← accept .flowMappingEnd then return []
    unless first do expect .flowEntry .flowMapping start .notMappingComma
    match ← accept? .key with
    | some sign => do
      let ends : List Token := [.flowEntry, .flowMappingEnd]
      let key ← readUnless (.value :: ends) sign (readNode fuel .inFlow)
      let value ← readValue ends (readNode fuel .inFlow)
      return (key, value) :: (← readFlowEntries fuel start false)
    | none =>
      if ← accept .flowMappingEnd then return []
      else do
        let key ← readNode fuel .inFlow
        let value ← addMissing (← peek).start
        return (key, value) :: (← readFlowEntries fuel start false)

end

/-- The handles that every document has. -/
def commonHandles : List (Text × Text) := [(['!'], ['!']), (['!', '!'], Tag.stem)]

/-- Reads the directives in front of a document; `version` tells whether one gave a version. Only
the first main version is read. -/
def readDirectives : Nat → Bool → Reader Unit
  | 0, _ => throw .tooDeep
  | fuel + 1, version => do
    let next ← peek
    match next.token with
    | .version major => do
      if version then throw (.found next.start .versionTwice)
      if major != 1 then throw (.found next.start .otherVersion)
      advance
      readDirectives fuel true
    | .tagHandle handle stem => do
      if ((← get).handles.lookup handle).isSome then
        throw (.found next.start (.handleTwice handle))
      advance
      modify fun reading => { reading with handles := (handle, stem) :: reading.handles }
      readDirectives fuel version
    | .directive => do
      advance
      readDirectives fuel version
    | _ => modify fun reading => { reading with handles := reading.handles ++ commonHandles }

/-- Reads the directives in front of a document and its start. -/
def readDocumentStart (fuel : Nat) : Reader Unit := do
  modify fun reading => { reading with handles := [] }
  readDirectives fuel false
  let next ← peek
  if next.token = .documentStart then advance
  else throw (.found next.start (.notDocumentStart next.token.name))

/-- Goes on behind marks that end a document. -/
def skipDocumentEnds : Nat → Reader Unit
  | 0 => pure ()
  | fuel + 1 => do
    if ← accept .documentEnd then skipDocumentEnds fuel

/-- Whether a token stands in front of a document or behind it. -/
def isOutside : Token → Bool
  | .version _ | .tagHandle .. | .directive | .documentStart | .documentEnd | .streamEnd => true
  | _ => false

/-- Reads the only document of the tokens: the number of its value, or nothing if there is no
document. -/
def readDocument (fuel : Nat) : Reader (Option Nat) := do
  let first ← peek
  if first.token = .streamEnd then return none
  let root ←
    if isOutside first.token && first.token != .documentEnd then do
      readDocumentStart fuel
      let next ← peek
      if isOutside next.token then addMissing next.start else readNode fuel .inBlock
    else do
      modify fun reading => { reading with handles := commonHandles }
      readNode fuel .inBlock
  skipDocumentEnds fuel
  let next ← peek
  if next.token != .streamEnd then
    readDocumentStart fuel
    let start := ((← get).nodes.getD root default).start
    throw (.foundIn .onlyDocument start next.start .anotherDocument)
  return some root

/-- The graph of the only document that tokens write, with the number of its value. The fault, if
there is one, stands behind the tokens. -/
def ofTokens (tokens : List Placed) (fault : Option Fault) : Except Fault (Graph × Option Nat) := do
  let (root, reading) ← (readDocument (2 * tokens.length + 2)).run { tokens, fault }
  .ok (reading.nodes, root)

end Graph
end DebugLaunch.Yaml
