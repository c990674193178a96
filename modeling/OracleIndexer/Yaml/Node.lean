import OracleIndexer.Yaml.Kind
import OracleIndexer.Yaml.Lexer
set_option autoImplicit false

/-!
# Nodes

The nodes that the tokens of a text describe, numbered in the order in which they start.  A
collection holds the numbers of its nodes: an alias is the number of the node that its anchor names,
so one node may stand in several places, and inside itself.
-/

namespace OracleIndexer.Yaml

/-- A node of a document, the nodes inside it being given by their numbers. -/
inductive Node where
  | scalar (kind : Kind) (text : String)
  | sequence (kind : Kind) (items : List Nat)
  | mapping (kind : Kind) (entries : List (Nat × Nat))
  deriving Repr, Inhabited

/-- What a node stands for. -/
def Node.kind : Node → Kind
  | .scalar kind _ | .sequence kind _ | .mapping kind _ => kind

/-- The nodes of a document. -/
structure Graph where
  nodes : Array Node
  root : Nat
  deriving Repr, Inhabited

namespace Graph

/-- How deep collections may lie in one another. -/
def depthLimit : Nat := 488

/-- The tokens still to be read and the fault behind them, the nodes so far, those with anchors,
what the tag handles stand for, and the number of collections around the next token. -/
structure Reading where
  tokens : List Token
  fault : Option Fault
  nodes : Array Node
  anchors : List (String × Nat)
  handles : List (String × String)
  depth : Nat
  deriving Inhabited

/-- Reads from the tokens, or finds a fault. -/
abbrev Reader := StateT Reading Outcome

/-- The next token.  Looking past the last token finds the fault behind it. -/
def next? : Reader (Option Token) := do
  let reading ← get
  match reading.tokens, reading.fault with
  | token :: _, _ => return some token
  | [], some fault => throw fault
  | [], none => return none

/-- Steps over the next token. -/
def advance : Reader Unit := modify fun r => { r with tokens := r.tokens.drop 1 }

/-- Refuses the tokens. -/
def refuse {α : Type} : Reader α := throw .notYaml

/-- Steps over an expected token. -/
def expect (token : Token) : Reader Unit := do
  if (← next?) = some token then advance else refuse

/-- Steps over a token if it comes next, and tells whether it did. -/
def accept (token : Token) : Reader Bool := do
  if (← next?) = some token then
    advance
    return true
  else return false

/-- Whether one of some tokens comes next. -/
def isNext (tokens : List Token) : Reader Bool := do
  match ← next? with
  | some token => return tokens.contains token
  | none => return false

/-! ## Nodes and their names -/

/-- Adds a node, and tells its number. -/
def add (node : Node) : Reader Nat := do
  let reading ← get
  set { reading with nodes := reading.nodes.push node }
  return reading.nodes.size

/-- Adds a node without content. -/
def addEmpty : Reader Nat := add (.scalar .null "")

/-- Adds a node under its anchor, if it has one.  No two nodes share an anchor. -/
def addUnder (anchor : Option String) (node : Node) : Reader Nat := do
  match anchor with
  | none => add node
  | some name =>
    if ((← get).anchors.lookup name).isSome then refuse
    else
      let place ← add node
      modify fun r => { r with anchors := (name, place) :: r.anchors }
      return place

/-- Gives a node its content. -/
def fill (place : Nat) (node : Node) : Reader Unit :=
  modify fun r => { r with nodes := r.nodes.setIfInBounds place node }

/-- The node of an alias. -/
def ofAlias (name : String) : Reader Nat := do
  match (← get).anchors.lookup name with
  | some place => return place
  | none => refuse

/-- An anchor, if one comes next. -/
def anchor? : Reader (Option String) := do
  match ← next? with
  | some (.anchor name) =>
    advance
    return some name
  | _ => return none

/-- A tag, as its handle and what follows it, if one comes next. -/
def tag? : Reader (Option (Option String × String)) := do
  match ← next? with
  | some (.tag handle suffix) =>
    advance
    return some (handle, suffix)
  | _ => return none

/-- A tag with its handle expanded. -/
def expanded : Option (Option String × String) → Reader (Option String)
  | none => return none
  | some (none, suffix) => return some suffix
  | some (some handle, suffix) => do
    match (← get).handles.lookup handle with
    | some expansion => return some (expansion ++ suffix)
    | none => refuse

/-- An anchor and a tag, in either order. -/
def properties : Reader (Option String × Option String) := do
  match ← anchor? with
  | some anchor =>
    let tag ← tag?
    return (some anchor, ← expanded tag)
  | none =>
    let tag ← tag?
    let anchor ← if tag.isSome then anchor? else pure none
    return (anchor, ← expanded tag)

/-- The kind of a scalar by its tag and style. -/
def scalarKind (tag : Option String) (style : Style) (text : String) : Kind :=
  match tag with
  | some "!" => .ofPlain text
  | some name => .ofTag name
  | none => if style = .plain then .ofPlain text else .text

/-- The kind of a collection by its tag. -/
def collectionKind (tag : Option String) (default : Kind) : Kind :=
  match tag with
  | some "!" => default
  | some name => .ofTag name
  | none => default

/-- Reads what a collection holds. -/
def inside {α : Type} (held : Reader α) : Reader α := do
  let depth := (← get).depth
  if depthLimit ≤ depth then throw .tooDeep
  modify fun r => { r with depth := depth + 1 }
  let found ← held
  modify fun r => { r with depth := depth }
  return found

/-- A sequence whose items a reader finds. -/
def sequenceOf (anchor tag : Option String) (items : Reader (List Nat)) : Reader Nat := do
  let kind := collectionKind tag .sequence
  let place ← addUnder anchor (.sequence kind [])
  fill place (.sequence kind (← inside items))
  return place

/-- A mapping whose entries a reader finds. -/
def mappingOf (anchor tag : Option String) (entries : Reader (List (Nat × Nat))) : Reader Nat := do
  let kind := collectionKind tag .mapping
  let place ← addUnder anchor (.mapping kind [])
  fill place (.mapping kind (← inside entries))
  return place

mutual

/-- A node.  Block collections may be allowed or not, and so may a sequence whose dashes stand no
further right than the key they belong to. -/
def read (block indentless : Bool) : Nat → Reader Nat
  | 0 => refuse
  | fuel + 1 => do
    match ← next? with
    | some (.alias name) =>
      advance
      ofAlias name
    | _ =>
      let (anchor, tag) ← properties
      content block indentless anchor tag fuel

/-- The content of a node after its anchor and tag, without which there must be some. -/
def content (block indentless : Bool) (anchor tag : Option String) : Nat → Reader Nat
  | 0 => refuse
  | fuel + 1 => do
    match ← next? with
    | some (.scalar style text) =>
      advance
      addUnder anchor (.scalar (scalarKind tag style text) text)
    | some .openSequence =>
      sequenceOf anchor tag do
        advance
        flowItems true fuel
    | some .openMapping =>
      mappingOf anchor tag do
        advance
        flowEntries true fuel
    | other =>
      if indentless && other == some .blockEntry then
        sequenceOf anchor tag (indentlessItems fuel)
      else if block && other == some .blockSequence then
        sequenceOf anchor tag do
          advance
          blockItems fuel
      else if block && other == some .blockMapping then
        mappingOf anchor tag do
          advance
          blockEntries fuel
      else if anchor.isSome || tag.isSome then
        addUnder anchor (.scalar (scalarKind tag .plain "") "")
      else refuse

/-- The items of a block sequence up to its end. -/
def blockItems : Nat → Reader (List Nat)
  | 0 => refuse
  | fuel + 1 => do
    if ← accept .blockEnd then return []
    expect .blockEntry
    let item ← if ← isNext [.blockEntry, .blockEnd] then addEmpty else read true false fuel
    return item :: (← blockItems fuel)

/-- The items of a sequence that ends where no dash follows. -/
def indentlessItems : Nat → Reader (List Nat)
  | 0 => refuse
  | fuel + 1 => do
    if ← accept .blockEntry then
      let item ← if ← isNext [.blockEntry, .key, .value, .blockEnd] then addEmpty
        else read true false fuel
      return item :: (← indentlessItems fuel)
    else return []

/-- A key or a value in a block mapping, which may be without content. -/
def blockPart : Nat → Reader Nat
  | 0 => refuse
  | fuel + 1 => do
    if ← isNext [.key, .value, .blockEnd] then addEmpty else read true true fuel

/-- The entries of a block mapping up to its end. -/
def blockEntries : Nat → Reader (List (Nat × Nat))
  | 0 => refuse
  | fuel + 1 => do
    if ← accept .blockEnd then return []
    expect .key
    let key ← blockPart fuel
    let value ← if ← accept .value then blockPart fuel else addEmpty
    return (key, value) :: (← blockEntries fuel)

/-- A key and its value inside a flow collection, after the key's mark. -/
def flowEntry (close : Token) : Nat → Reader (Nat × Nat)
  | 0 => refuse
  | fuel + 1 => do
    let key ← if ← isNext [.value, .flowEntry, close] then addEmpty else read false false fuel
    if ← accept .value then
      let value ← if ← isNext [.flowEntry, close] then addEmpty else read false false fuel
      return (key, value)
    else return (key, ← addEmpty)

/-- The items of a flow sequence up to its end.  An item with a key's mark is a mapping of one
entry. -/
def flowItems (first : Bool) : Nat → Reader (List Nat)
  | 0 => refuse
  | fuel + 1 => do
    if ← accept .closeSequence then return []
    if !first then expect .flowEntry
    if ← accept .key then
      let item ← mappingOf none none do return [← flowEntry .closeSequence fuel]
      return item :: (← flowItems false fuel)
    else if ← accept .closeSequence then return []
    else
      let item ← read false false fuel
      return item :: (← flowItems false fuel)

/-- The entries of a flow mapping up to its end.  A node without a key's mark is a key alone. -/
def flowEntries (first : Bool) : Nat → Reader (List (Nat × Nat))
  | 0 => refuse
  | fuel + 1 => do
    if ← accept .closeMapping then return []
    if !first then expect .flowEntry
    if ← accept .key then
      let entry ← flowEntry .closeMapping fuel
      return entry :: (← flowEntries false fuel)
    else if ← accept .closeMapping then return []
    else
      let key ← read false false fuel
      let value ← addEmpty
      return (key, value) :: (← flowEntries false fuel)

end

/-! ## Documents -/

/-- What the handles stand for that need no directive. -/
def standardHandles : List (String × String) := [("!", "!"), ("!!", Kind.standardTag)]

/-- The directives before a document: at most one version, whose major part is one, and at most one
expansion for a handle.  Behind them all documents have the standard handles. -/
def directives (versioned : Bool) : Nat → Reader Unit
  | 0 => refuse
  | fuel + 1 => do
    match ← next? with
    | some (.version major) =>
      advance
      if versioned || major != 1 then refuse else directives true fuel
    | some (.handle name expansion) =>
      advance
      if ((← get).handles.lookup name).isSome then refuse
      else
        modify fun r => { r with handles := (name, expansion) :: r.handles }
        directives versioned fuel
    | some .directive =>
      advance
      directives versioned fuel
    | _ => modify fun r => { r with handles := r.handles ++ standardHandles }

/-- The start of a marked document. -/
def marked (fuel : Nat) : Reader Unit := do
  modify fun r => { r with handles := [] }
  directives false fuel
  expect .documentStart

/-- Steps over the ends of documents. -/
def ends : Nat → Reader Unit
  | 0 => refuse
  | fuel + 1 => do if ← accept .documentEnd then ends fuel

/-- Whether a token belongs to the frame of documents, as the end of the text does. -/
def isFrame : Option Token → Bool
  | none => true
  | some token =>
    match token with
    | .version _ | .handle _ _ | .directive | .documentStart | .documentEnd => true
    | _ => false

/-- The single document of the tokens, if there is one.  It need not be marked, and must be the
last. -/
def document (fuel : Nat) : Reader (Option Nat) := do
  match ← next? with
  | none => return none
  | some token =>
    let root ←
      if isFrame (some token) && token != .documentEnd then do
        marked fuel
        if isFrame (← next?) then addEmpty else read true false fuel
      else do
        modify fun r => { r with handles := standardHandles }
        read true false fuel
    ends fuel
    if (← next?).isSome then
      marked fuel
      refuse
    else return some root

/-- The nodes of the single document that a text holds; a text without one holds nothing but an
empty node. -/
def ofText (text : List Char) : Outcome Graph := do
  let { tokens, fault } := Tokens.ofText text
  let start : Reading := { tokens, fault, nodes := #[], anchors := [], handles := [], depth := 0 }
  let (root, reading) ← (document (4 * tokens.length + 4)).run start
  match root with
  | some root => return { nodes := reading.nodes, root }
  | none => return { nodes := #[.scalar .null ""], root := 0 }

end Graph

end OracleIndexer.Yaml
