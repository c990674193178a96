import OracleIndexer.Broker.Basic
import OracleIndexer.Indexer.Run
set_option autoImplicit false

/-!
# Consumption

An indexer works through the batches after its cursor.  Each is transformed, handed to a sink, and
only then acknowledged, so a batch that fails in either step is the first one of the next attempt.
-/

namespace OracleIndexer

/-- How a consumption ended. -/
inductive Ending where
  /-- as many batches were worked off as were asked for -/
  | enough
  /-- no further batch is published -/
  | idle
  /-- a batch failed -/
  | failed (fault : Fault)
  deriving Repr, Inhabited

/-- A consumption: the broker after it, what the sink kept of each call, what it refused last, the
notes taken, and the number of batches worked off. -/
structure Consumption where
  broker : Broker
  kept : List (List Output)
  refused : Option (List Output)
  notes : List Note
  processed : Nat
  ending : Ending
  deriving Inhabited

namespace Consumption

/-- A sink, by the calls that it refuses: the number of a call, counted from one, and the outputs
handed to it. -/
abbrev Refusals := Nat → List Output → Option Fault

/-- Works through messages, some having been worked off before.  The limit is looked at after each
message. -/
def ofMessages (indexer : Indexer) (settings : Settings) (limit : Option Int)
    (refuses : Refusals) (broker : Broker) (processed : Nat) : List Message → Consumption
  | [] => ⟨broker, [], none, [], processed, .idle⟩
  | message :: rest =>
    let attempt := indexer.runBatch message.batch settings
    match attempt.result with
    | .error fault => ⟨broker, [], none, attempt.notes, processed, .failed fault⟩
    | .ok outputs =>
      match refuses (processed + 1) outputs with
      | some fault => ⟨broker, [], some outputs, attempt.notes, processed, .failed fault⟩
      | none =>
        let committed := broker.commit indexer.name message.offset
        let notes := attempt.notes ++ [.consumed indexer.name message.block outputs.length]
        if limit.any fun (most : Int) => decide (most ≤ (processed : Int) + 1) then
          ⟨committed, [outputs], none, notes, processed + 1, .enough⟩
        else
          let more := ofMessages indexer settings limit refuses committed (processed + 1) rest
          { more with kept := outputs :: more.kept, notes := notes ++ more.notes }

/-- Works through the messages after an indexer's cursor. -/
def ofBroker (broker : Broker) (indexer : Indexer) (settings : Settings) (limit : Option Int)
    (refuses : Refusals) : Consumption :=
  ofMessages indexer settings limit refuses broker 0
    (broker.log.drop (broker.resumption indexer.name))

/-- A sink that refuses one call, or none. -/
def refusing (call : Option Int) : Refusals := fun number _ =>
  if call == some (number : Int) then some .sinkFailed else none

end Consumption

end OracleIndexer
