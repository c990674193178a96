import OracleIndexer.Block
import OracleIndexer.Feed.Batch
set_option autoImplicit false

/-!
# Outputs

What an event becomes: a row of its own, a row to insert, or a change to the row with given key
columns.  Columns keep their order.
-/

namespace OracleIndexer

/-- Named values in order. -/
abbrev Columns := List (String × Json)

/-- What an event becomes. -/
inductive Output where
  | row (columns : Columns)
  | insert (columns : Columns)
  | update (key changes : Columns)
  deriving Repr, Inhabited

namespace Output

/-- The document of an output. -/
def document : Output → Json
  | .row columns => .object columns
  | .insert columns => .object [("insert", .object columns)]
  | .update key changes => .object [("entity", .object key), ("update", .object changes)]

end Output

namespace Record

/-- What outputs need beside the event: the network's name and how messages are read. -/
structure Context where
  network : String
  format : Feed.Format
  deriving Repr, Inhabited

/-- The identifier of an event's row: transaction hash and event index, both of which must be
written. -/
def dataId (item : Block.Item) : Outcome String := do
  let hash ← item.transactionHash.asText
  let index ← (Json.int item.event.index).asText
  return hash ++ "_" ++ index

/-- The columns of an event's block and transaction. -/
def blockColumns (header : Block.Header) (item : Block.Item) : Columns :=
  [("block_hash", header.hash), ("block_number", .int header.number),
   ("block_timestamp", header.timestamp), ("transaction_hash", item.transactionHash)]

/-- A payload read from an event's data. -/
def payload {α : Type} (read : List Json → Except LayoutFault α) (item : Block.Item) : Outcome α :=
  (read item.event.data).mapError .layout

end Record

end OracleIndexer
