import OracleIndexer.Felt.Number
import OracleIndexer.Json.Access
set_option autoImplicit false

/-!
# Block batches

The batch of one block as the streaming runtime hands it over: the block's header, and the events in
order, each with what is known of its transaction.
-/

namespace OracleIndexer.Block

/-- A block's header. -/
structure Header where
  number : Int
  hash : Json
  timestamp : Json
  deriving Repr, Inhabited

/-- An event as it was emitted. -/
structure Event where
  fromAddress : Json
  keys : List Json
  data : List Json
  index : Int
  deriving Repr, Inhabited

/-- The first key of an event, null when it has none. -/
def Event.selector (event : Event) : Json := event.keys.headD .null

/-- An event with the hash and the sender of its transaction, as far as they are known. -/
structure Item where
  event : Event
  transactionHash : Json
  senderAddress : Json
  deriving Repr, Inhabited

/-- A block's header and events. -/
structure Batch where
  header : Header
  items : List Item
  deriving Repr, Inhabited

/-- Reads a block number or an event index: a whole number, or its text. -/
def wholeNumber : Json → Outcome Int
  | .bool _ => .error (.value .boolNumber)
  | .int n => .ok n
  | other => do Felt.ofText (← other.asText).toList

/-- Reads a header. -/
def Header.ofDocument (document : Json) : Outcome Header := do
  let members ← document.membersWith "blockNumber" (.value .invalidHeader)
  let number ← wholeNumber (Json.memberOf members "blockNumber")
  return {
    number
    hash := Json.memberOf members "blockHash"
    timestamp := Json.memberOf members "timestamp" }

/-- Reads an event's index, which is zero when absent. -/
def indexOf : Json → Outcome Int
  | .null => .ok 0
  | other => wholeNumber other

/-- Reads an event. -/
def Event.ofDocument (document : Json) : Outcome Event := do
  let members ← document.membersWith "data" (.value .invalidEvent)
  let keys ← (Json.memberOf members "keys").entries
  let data ← (Json.memberOf members "data").entries
  let index ← indexOf (Json.memberOf members "index")
  return { fromAddress := Json.memberOf members "fromAddress", keys, data, index }

/-- The hash of an item's transaction: the one in the transaction's own data, or else the one on its
receipt. -/
def transactionHashOf (members : List (String × Json)) : Outcome Json := do
  let data ← (Json.memberOf members "transaction").part "meta"
  let hash ← data.part "hash"
  if hash.isGiven then return hash
  else (Json.memberOf members "receipt").part "transactionHash"

/-- The sender of an item's transaction, by either version and either spelling. -/
def senderAddressOf (members : List (String × Json)) : Outcome Json := do
  let transaction := Json.memberOf members "transaction"
  let first ← transaction.part "invokeV1"
  let third ← transaction.part "invokeV3"
  let invocation := first.orElse third
  let sender ← invocation.part "senderAddress"
  let spelled ← invocation.part "sender_address"
  return sender.orElse spelled

/-- Reads an item. -/
def Item.ofDocument (document : Json) : Outcome Item := do
  let members ← document.membersWith "event" (.value .invalidItem)
  let event ← Event.ofDocument (Json.memberOf members "event")
  let hash ← transactionHashOf members
  let sender ← senderAddressOf members
  return { event, transactionHash := hash, senderAddress := sender }

/-- Reads items in order. -/
def itemsOfDocuments : List Json → Outcome (List Item)
  | [] => .ok []
  | document :: rest => do
    let item ← Item.ofDocument document
    let items ← itemsOfDocuments rest
    return item :: items

/-- Reads a batch, its header first. -/
def Batch.ofDocument (document : Json) : Outcome Batch := do
  let members ← document.membersWith "header" (.value .invalidBatch)
  let header ← Header.ofDocument (Json.memberOf members "header")
  let documents ← (Json.memberOf members "events").entries
  let items ← itemsOfDocuments documents
  return { header, items }

end OracleIndexer.Block
