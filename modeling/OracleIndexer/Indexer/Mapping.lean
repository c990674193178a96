import OracleIndexer.Journal
import OracleIndexer.Record.Assertion
import OracleIndexer.Record.FeedUpdate
import OracleIndexer.Record.Price
import OracleIndexer.Record.Randomness
set_option autoImplicit false

/-!
# Mappings

The ways in which an event becomes outputs.
-/

namespace OracleIndexer

/-- A way in which an event becomes outputs. -/
inductive Mapping where
  | spotEntry
  | futureEntry
  | checkpoint
  | feedUpdate
  | randomness
  | assertion
  deriving DecidableEq, Repr, Inhabited

namespace Mapping

/-- The outputs of an event. -/
def outputs : Mapping → Block.Header → Block.Item → Record.Context → Outcome (List Output)
  | .spotEntry => Record.spotEntry
  | .futureEntry => Record.futureEntry
  | .checkpoint => Record.checkpoint
  | .feedUpdate => Record.feedUpdate
  | .randomness => Record.randomness
  | .assertion => Record.assertion

/-- What is noted while an event is mapped: the words of a message, and the characters behind its
last record. -/
def notes (mapping : Mapping) (item : Block.Item) (context : Record.Context) : List Note :=
  match mapping with
  | .feedUpdate =>
    match Payload.Dispatch.ofData item.event.data with
    | .error _ => []
    | .ok message =>
      .messageWords item.transactionHash message.words ::
        match Feed.Envelope.decode context.format message.words with
        | .error _ => []
        | .ok batch => batch.remark?.toList.map .ignoredTail
  | _ => []

end Mapping

end OracleIndexer
