import OracleIndexer.Felt.ShortString
import OracleIndexer.Payload.Price
import OracleIndexer.Record.Output
import OracleIndexer.Timestamp
set_option autoImplicit false

/-!
# Price rows

The rows of spot entries, future entries and checkpoints.
-/

namespace OracleIndexer.Record

/-- The columns of a price entry. -/
def entryColumns (entry : Payload.SpotEntry) (header : Block.Header) (item : Block.Item)
    (context : Context) : Outcome Columns := do
  let pairId ← Felt.text entry.pairId
  let dataId ← dataId item
  let price ← Felt.column entry.price
  let timestamp ← Timestamp.ofSeconds entry.timestamp
  let publisher ← Felt.text entry.publisher
  let source ← Felt.text entry.source
  let volume ← Felt.column entry.volume
  return [("network", .text context.network), ("pair_id", .text pairId),
      ("data_id", .text dataId)]
    ++ blockColumns header item
    ++ [("price", price), ("timestamp", .text timestamp), ("publisher", .text publisher),
      ("source", .text source), ("volume", volume)]

/-- The row of a spot entry. -/
def spotEntry (header : Block.Header) (item : Block.Item) (context : Context) :
    Outcome (List Output) := do
  let entry ← payload Payload.SpotEntry.ofData item
  return [.row (← entryColumns entry header item context)]

/-- The row of a future entry. -/
def futureEntry (header : Block.Header) (item : Block.Item) (context : Context) :
    Outcome (List Output) := do
  let entry ← payload Payload.FutureEntry.ofData item
  let columns ← entryColumns entry.toSpotEntry header item context
  let expiration ← Timestamp.ofMillis entry.expirationTimestamp
  return [.row (columns ++ [("expiration_timestamp", .text expiration)])]

/-- The row of a checkpoint. -/
def checkpoint (header : Block.Header) (item : Block.Item) (context : Context) :
    Outcome (List Output) := do
  let entry ← payload Payload.Checkpoint.ofData item
  let pairId ← Felt.text entry.pairId
  let dataId ← dataId item
  let price ← Felt.column entry.price
  let timestamp ← Timestamp.ofSeconds entry.timestamp
  let aggregationMode ← Felt.column entry.aggregationMode
  let sourceCount ← Felt.column entry.sourceCount
  return [.row
    ([("network", .text context.network), ("pair_id", .text pairId),
        ("data_id", .text dataId)]
      ++ blockColumns header item
      ++ [("price", price), ("timestamp", .text timestamp), ("aggregation_mode", aggregationMode),
        ("nb_sources_aggregated", sourceCount), ("sender_address", item.senderAddress)])]

end OracleIndexer.Record
