import OracleIndexer.Indexer.Mapping
import OracleIndexer.Indexer.Role
import OracleIndexer.Selector
set_option autoImplicit false

/-!
# Indexers

An indexer listens to one contract for events with certain selectors and maps each of them.  The six
registered ones are found by name.
-/

namespace OracleIndexer

/-- Which events are wanted, from which contract, and what becomes of them. -/
structure Indexer where
  name : String
  role : Role
  selectors : List String
  mapping : Mapping
  /-- whether outputs insert and update rows that have an identity -/
  keepsEntities : Bool
  includeTransaction : Bool
  includeReceipt : Bool
  deriving Repr, Inhabited

namespace Indexer

/-- An indexer of rows for the event with a name. -/
def rows (name : String) (role : Role) (event : String) (mapping : Mapping) : Indexer where
  name := name
  role := role
  selectors := [Selector.ofName event]
  mapping := mapping
  keepsEntities := false
  includeTransaction := true
  includeReceipt := false

/-- An indexer of entities for events with some selectors. -/
def entities (name : String) (role : Role) (selectors : List String) (mapping : Mapping) :
    Indexer where
  name := name
  role := role
  selectors := selectors
  mapping := mapping
  keepsEntities := true
  includeTransaction := true
  includeReceipt := false

/-- Spot prices by publisher. -/
def spot : Indexer := rows "spot" .oracle "SubmittedSpotEntry" .spotEntry

/-- Aggregated spot prices. -/
def spotCheckpoint : Indexer :=
  rows "spot-checkpoint" .checkpointOracle "CheckpointSpotEntry" .checkpoint

/-- Prices of futures by publisher. -/
def future : Indexer :=
  { rows "future" .futureOracle "SubmittedFutureEntry" .futureEntry with includeReceipt := true }

/-- Dispatched messages with feed updates. -/
def dispatch : Indexer := rows "dispatch" .mailbox "Dispatch" .feedUpdate

/-- Requests for random words. -/
def randomnessRequests : Indexer :=
  entities "vrf-requests" .vrf [Record.randomnessRequestSelector, Record.statusChangeSelector]
    .randomness

/-- Assertions and what becomes of them. -/
def assertionRequests : Indexer :=
  entities "oo-requests" .oracleAssertions
    [Record.assertionMadeSelector, Record.assertionSettledSelector,
      Record.assertionDisputedSelector]
    .assertion

/-- The registered indexers. -/
def all : List Indexer :=
  [spot, spotCheckpoint, future, dispatch, randomnessRequests, assertionRequests]

/-- The names of the registered indexers in order. -/
def names : List String := (all.map name).mergeSort fun a b => decide (a ≤ b)

/-- The registered indexer with a name. -/
def find (s : String) : Outcome Indexer :=
  match all.find? fun indexer => indexer.name == s with
  | some indexer => .ok indexer
  | none => .error (.value (.unknownIndexer s names))

/-- Whether a felt has the value of one of some texts, the first ones being compared first. -/
def sameAsAny (felt : Json) : List String → Outcome Bool
  | [] => .ok false
  | s :: rest => do
    if ← Felt.same felt (.text s) then return true
    else sameAsAny felt rest

/-- Whether an event comes from a contract and has one of the wanted selectors. -/
def wants (indexer : Indexer) (event : Block.Event) (contract : Json) : Outcome Bool := do
  if ← Felt.same event.fromAddress contract then sameAsAny event.selector indexer.selectors
  else return false

/-- The options of the sink that takes the outputs. -/
def sinkOptions (indexer : Indexer) : Json :=
  if indexer.keepsEntities then .object [("entityMode", .bool true)]
  else .object [("raw", .bool true)]

/-- The part of the filter for one selector. -/
def selectorFilter (indexer : Indexer) (contract : Json) (selector : String) : Json :=
  .object [("fromAddress", contract), ("keys", .array [.text selector]),
    ("includeTransaction", .bool indexer.includeTransaction),
    ("includeReceipt", .bool indexer.includeReceipt)]

/-- The filter by which the streaming runtime chooses events.  The header of a block is asked for
only when one of its events is chosen. -/
def filter (indexer : Indexer) (contract : Json) : Json :=
  .object [("header", .object [("weak", .bool true)]),
    ("events", .array (indexer.selectors.map (selectorFilter indexer contract)))]

end Indexer

end OracleIndexer
