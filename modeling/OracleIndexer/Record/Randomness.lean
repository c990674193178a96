import OracleIndexer.Payload.Randomness
import OracleIndexer.Record.Output
set_option autoImplicit false

/-!
# Randomness outputs

A request becomes a row to insert, a change of its status an update of that row.
-/

namespace OracleIndexer.Record

/-- The selector of a request for random words. -/
def randomnessRequestSelector : String :=
  "0x00e3e1c077138abb6d570b1a7ba425f5479b12f50a78a72be680167d4cf79c48"

/-- The selector of a change of a request's status. -/
def statusChangeSelector : String :=
  "0x015510b399942790499934b72bc68b883f0905dee5da5aa36e489c9ffb096b8c"

/-- The row of a request. -/
def requestInsert (header : Block.Header) (item : Block.Item) (context : Context) :
    Outcome (List Output) := do
  let request ← payload Payload.RandomnessRequest.ofData item
  let dataId ← dataId item
  let requestId ← Felt.column request.requestId
  let seed ← Felt.column request.seed
  let minimumBlockNumber ← Felt.column request.minimumBlockNumber
  let callbackFeeLimit ← Felt.column request.callbackFeeLimit
  let wordCount ← Felt.column request.wordCount
  return [.insert
    [("data_id", .text dataId), ("network", .text context.network),
      ("request_id", requestId), ("seed", seed), ("created_at", header.timestamp),
      ("created_at_tx", item.transactionHash), ("minimum_block_number", minimumBlockNumber),
      ("callback_address", request.callbackAddress), ("callback_fee_limit", callbackFeeLimit),
      ("num_words", wordCount), ("requestor_address", request.callerAddress),
      ("updated_at", header.timestamp), ("updated_at_tx", item.transactionHash),
      ("status", .int 0)]]

/-- The update of a status change. -/
def statusUpdate (header : Block.Header) (item : Block.Item) : Outcome (List Output) := do
  let change ← payload Payload.StatusChange.ofData item
  let requestId ← Felt.column change.requestId
  let status ← Felt.column change.status
  return [.update
    [("request_id", requestId), ("requestor_address", change.callerAddress)]
    [("status", status), ("updated_at", header.timestamp),
      ("updated_at_tx", item.transactionHash)]]

/-- The output of an event about random words; other events have none. -/
def randomness (header : Block.Header) (item : Block.Item) (context : Context) :
    Outcome (List Output) := do
  let selector := item.event.selector
  if ← Felt.same selector (.text randomnessRequestSelector) then
    requestInsert header item context
  else if ← Felt.same selector (.text statusChangeSelector) then
    statusUpdate header item
  else return []

end OracleIndexer.Record
