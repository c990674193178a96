import OracleIndexer.Yaml.Node
import OracleIndexer.Yaml.Value
set_option autoImplicit false

/-!
# Documents

What the nodes of a document stand for.  A collection is opened where it is first met and filled
only when everything in front of it is done: collections are filled in the order in which they were
met, so the first fault in that order is the one found.  Before a mapping is filled, the entries
merged into it are put in front of its own.  A collection may stand in several places, and inside
itself; its value is unfolded to a depth.
-/

namespace OracleIndexer.Yaml

/-- What stands in a place: a value that is no collection, or the number of a collection. -/
inductive Part where
  | value (value : Value)
  | collection (place : Nat)
  deriving Repr, Inhabited

/-- What a collection holds. -/
inductive Contents where
  | sequence (items : List Part)
  | mapping (entries : List (Value × Part))
  | set (members : List Value)
  | pairs (entries : List (Part × Part))
  deriving Repr, Inhabited

/-- Whether a collection holds nothing. -/
def Contents.isEmpty : Contents → Bool
  | .sequence items => items.isEmpty
  | .mapping entries => entries.isEmpty
  | .set members => members.isEmpty
  | .pairs entries => entries.isEmpty

/-- A document: what stands at its root, and its collections by number. -/
structure Document where
  root : Part
  collections : Array Contents
  deriving Repr, Inhabited

namespace Document

/-! ## Texts of scalars -/

/-- The kind of the node with a number. -/
def kindAt (nodes : Array Node) (place : Nat) : Kind :=
  match nodes[place]? with
  | some node => node.kind
  | none => .unknown

/-- The text of a scalar.  That of a mapping is the text of its plain value. -/
def scalarText (nodes : Array Node) : Nat → Nat → Outcome String
  | 0, _ => .error .tooDeep
  | fuel + 1, place =>
    match nodes[place]? with
    | some (.scalar _ text) => .ok text
    | some (.mapping _ entries) =>
      match entries.find? fun entry => kindAt nodes entry.1 = .plainValue with
      | some (_, value) => scalarText nodes fuel value
      | none => .error .notYaml
    | _ => .error .notYaml

/-- The value of a scalar of a kind.  A chain of plain values is no longer than the nodes are
many, unless it has no end.  An instant stands in a scalar of its own. -/
def scalarAt (nodes : Array Node) (place : Nat) : Outcome Value := do
  let kind := kindAt nodes place
  match kind with
  | .merge | .plainValue | .unknown => .error .notYaml
  | _ =>
    let text ← scalarText nodes (nodes.size + 1) place
    match kind, nodes[place]? with
    | .instant, some (.mapping _ _) => .error .wrongKind
    | _, _ => Value.ofScalar kind text

/-! ## Merged entries -/

/-- The nodes of a document while entries move between its mappings. -/
abbrev Merging := StateT (Array Node) Outcome

/-- The entries of the mapping with a number. -/
def entriesAt (place : Nat) : Merging (List (Nat × Nat)) := do
  match (← get)[place]? with
  | some (.mapping _ entries) => return entries
  | _ => throw .notYaml

/-- Gives the mapping with a number other entries. -/
def putEntries (place : Nat) (entries : List (Nat × Nat)) : Merging Unit :=
  modify fun nodes => nodes.setIfInBounds place (.mapping (kindAt nodes place) entries)

/-- Makes a key for a plain value a key like others. -/
def plainKey (place : Nat) : Merging Unit :=
  modify fun nodes =>
    match nodes[place]? with
    | some (.scalar .plainValue text) => nodes.setIfInBounds place (.scalar .text text)
    | some (.sequence .plainValue items) => nodes.setIfInBounds place (.sequence .text items)
    | some (.mapping .plainValue entries) => nodes.setIfInBounds place (.mapping .text entries)
    | _ => nodes

mutual

/-- Puts the entries that its merge keys bring, `found` so far, in front of a mapping's own.  Each
merge key is taken out of its mapping first, so there is an end to it. -/
def merge : Nat → (found : List (Nat × Nat)) → (place : Nat) → Merging Unit
  | 0, _, _ => throw .tooDeep
  | fuel + 1, found, place => do
    let entries ← entriesAt place
    let nodes ← get
    match entries.findIdx? fun entry => kindAt nodes entry.1 = .merge with
    | some i =>
      putEntries place (entries.eraseIdx i)
      let brought ← merged fuel ((entries[i]?.map (·.2)).getD place)
      merge fuel (found ++ brought) place
    | none =>
      entries.forM fun entry => plainKey entry.1
      putEntries place (found ++ entries)

/-- The entries that a node brings to a mapping it is merged into: those of a mapping, or those of
all mappings in a sequence, the first one's last. -/
def merged : Nat → (source : Nat) → Merging (List (Nat × Nat))
  | 0, _ => throw .tooDeep
  | fuel + 1, source => do
    match (← get)[source]? with
    | some (.mapping _ _) =>
      merge fuel [] source
      entriesAt source
    | some (.sequence _ items) => mergedItems fuel items
    | _ => throw .notYaml

/-- The entries of the mappings in a sequence, those of the first one coming last. -/
def mergedItems : Nat → (items : List Nat) → Merging (List (Nat × Nat))
  | 0, _ => throw .tooDeep
  | _, [] => return []
  | fuel + 1, item :: rest => do
    merge fuel [] item
    let own ← entriesAt item
    return (← mergedItems fuel rest) ++ own

end

/-! ## Filling -/

/-- A document being built: its nodes, the parts met so far by number, the numbers of the
collections in the order in which they were met, and what the filled ones hold. -/
structure Building where
  nodes : Array Node
  parts : Array (Option Part)
  met : Array Nat
  collections : Array Contents
  deriving Inhabited

/-- Steps of building a document. -/
abbrev Builder := StateT Building Outcome

/-- What the node with a number stands for.  A collection met for the first time waits to be
filled. -/
def part (place : Nat) : Builder Part := do
  let building ← get
  match building.parts[place]?.join with
  | some part => return part
  | none =>
    match kindAt building.nodes place with
    | .sequence | .mapping | .set | .pairs =>
      let part := Part.collection place
      set { building with
        parts := building.parts.setIfInBounds place (some part)
        met := building.met.push place }
      return part
    | _ =>
      let part := Part.value (← scalarAt building.nodes place)
      set { building with parts := building.parts.setIfInBounds place (some part) }
      return part

/-- A key, which must be no collection. -/
def key (place : Nat) : Builder Value := do
  match ← part place with
  | .value value => return value
  | .collection _ => throw .notYaml

/-- The entries of a mapping, `done` so far. -/
def entriesFrom (done : List (Value × Part)) : List (Nat × Nat) → Builder (List (Value × Part))
  | [] => return done
  | (keyPlace, valuePlace) :: rest => do
    let k ← key keyPlace
    let v ← part valuePlace
    entriesFrom (Value.putEntry k v done) rest

/-- The entries of a mapping after those merged into it. -/
def mappingAt (fuel place : Nat) : Builder (List (Value × Part)) := do
  let building ← get
  let (_, nodes) ← (merge fuel [] place).run building.nodes
  set { building with nodes }
  match nodes[place]? with
  | some (.mapping _ entries) => entriesFrom [] entries
  | _ => throw .notYaml

/-- The entry of a mapping that has but one. -/
def pairAt (place : Nat) : Builder (Part × Part) := do
  match (← get).nodes[place]? with
  | some (.mapping _ [(keyPlace, valuePlace)]) =>
    let k ← part keyPlace
    return (k, ← part valuePlace)
  | _ => throw .notYaml

/-- What the collection with a number holds. -/
def contentsAt (fuel place : Nat) : Builder Contents := do
  let nodes := (← get).nodes
  match kindAt nodes place, nodes[place]? with
  | .sequence, some (.sequence _ items) => return .sequence (← items.mapM part)
  | .pairs, some (.sequence _ items) => return .pairs (← items.mapM pairAt)
  | .set, some (.mapping _ _) => return .set ((← mappingAt fuel place).map (·.1))
  | .mapping, some (.mapping _ _) => return .mapping (← mappingAt fuel place)
  | _, _ => throw .notYaml

/-- Fills the collections from the `i`-th one met on. -/
def fillFrom (fuel : Nat) : Nat → (i : Nat) → Builder Unit
  | 0, _ => return
  | left + 1, i => do
    match (← get).met[i]? with
    | none => return
    | some place =>
      let contents ← contentsAt fuel place
      modify fun b => { b with collections := b.collections.setIfInBounds place contents }
      fillFrom fuel left (i + 1)

/-- The number of items and entries of all collections. -/
def entryCount (nodes : Array Node) : Nat :=
  nodes.foldl (fun n node => match node with
    | .mapping _ entries => n + entries.length
    | .sequence _ items => n + items.length
    | .scalar _ _ => n) 0

/-- Steps enough for merging: every merge key is taken out once, and brings no more nodes than
there are items. -/
def mergeSteps (nodes : Array Node) : Nat :=
  let count := entryCount nodes
  (count + 1) * (count + 3)

/-- The document that nodes stand for. -/
def ofGraph (graph : Graph) : Outcome Document := do
  let size := graph.nodes.size
  let start : Building :=
    { nodes := graph.nodes
      parts := Array.replicate size none
      met := #[]
      collections := Array.replicate size (.sequence []) }
  let build : Builder Part := do
    let root ← part graph.root
    fillFrom (mergeSteps graph.nodes) (size + 1) 0
    return root
  let (root, building) ← build.run start
  return { root, collections := building.collections }

/-- The single document that a text holds. -/
def ofText (text : List Char) : Outcome Document := do ofGraph (← Graph.ofText text)

/-! ## Values -/

/-- A mapping without entries. -/
def empty : Document := { root := .collection 0, collections := #[.mapping []] }

/-- Whether the root counts as given: not null, false, zero or empty. -/
def isGiven (document : Document) : Bool :=
  match document.root with
  | .value value => value.isGiven
  | .collection place => (document.collections[place]?).all fun contents => !contents.isEmpty

/-- A document with another entry at its root.  Only a mapping takes one. -/
def withEntry (key value : Value) (document : Document) : Outcome Document :=
  match document.root with
  | .collection place =>
    match document.collections[place]? with
    | some (.mapping entries) =>
      let entries := Value.putEntry key (.value value) entries
      .ok { document with
        collections := document.collections.setIfInBounds place (.mapping entries) }
    | _ => .error .wrongKind
  | .value _ => .error .wrongKind

/-- The value of a part down to a depth.  Collections that lie deeper are shown without what they
hold. -/
def unfold (collections : Array Contents) : Nat → Part → Value
  | _, .value value => value
  | 0, .collection place =>
    match collections[place]? with
    | some (.mapping _) => .mapping []
    | some (.set _) => .set []
    | _ => .sequence []
  | depth + 1, .collection place =>
    match collections[place]? with
    | some (.sequence items) => .sequence (items.map (unfold collections depth))
    | some (.mapping entries) =>
      .mapping (entries.map fun (k, v) => (k, unfold collections depth v))
    | some (.set members) => .set members
    | some (.pairs entries) =>
      .sequence (entries.map fun (k, v) =>
        .sequence [unfold collections depth k, unfold collections depth v])
    | none => .null

/-- The value of a document down to a depth. -/
def value (document : Document) (depth : Nat) : Value :=
  unfold document.collections depth document.root

end Document

end OracleIndexer.Yaml
