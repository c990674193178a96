import OracleIndexer.Feed.Envelope
import OracleIndexer.Payload.Dispatch
import OracleIndexer.Record.Output
set_option autoImplicit false

/-!
# Feed update rows

The row of a dispatched message: the ids of the feeds that it updates.
-/

namespace OracleIndexer.Record

/-- The row of a dispatched message.  The message is decoded before its nonce is read. -/
def feedUpdate (header : Block.Header) (item : Block.Item) (context : Context) :
    Outcome (List Output) := do
  let message ← payload Payload.Dispatch.ofData item
  let batch ← Feed.Envelope.decode context.format message.words
  let nonce ← Felt.column message.nonce
  return [.row
    (("network", .text context.network) :: blockColumns header item
      ++ [("hyperlane_message_nonce", nonce), ("feeds_updated", .array (batch.ids.map .text))])]

end OracleIndexer.Record
