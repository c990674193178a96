import OracleIndexer.Felt.Words
import OracleIndexer.Payload.Assertion
import OracleIndexer.Record.Output
import OracleIndexer.Timestamp
set_option autoImplicit false

/-!
# Assertion outputs

A new assertion becomes a row to insert; a dispute and a settlement become updates of that row.
-/

namespace OracleIndexer.Record

/-- The selector of a new assertion. -/
def assertionMadeSelector : String :=
  "0x02b74480ce203d4ca6ee46c062a2d658129587cdccb3904c52a6f4dfb406a3f2"

/-- The selector of a dispute. -/
def assertionDisputedSelector : String :=
  "0x033efc8167fe91406d16c1680e593c3c2cad864220645cc2a48efd67e8f7ca73"

/-- The selector of a settlement. -/
def assertionSettledSelector : String :=
  "0x00ed635610f8859765fb89b19bec7866c02bbc2f03bb048acec6ba6536aa7cb9"

/-- The columns of a new assertion.  Of the claim's words only the one left over is padded, so only
its padding is dropped, before anything else is read. -/
def assertionColumns (made : Payload.AssertionMade) (header : Block.Header) (item : Block.Item)
    (context : Context) : Outcome Columns := do
  let words ← Felt.atLast Felt.trimmed made.claimWords
  let dataId ← dataId item
  let domainId ← Felt.amount made.domainIdLow made.domainIdHigh
  let claim ← Felt.concatenated words
  let expiration ← Timestamp.ofSeconds made.expirationTimestamp
  let bond ← Felt.amount made.bondLow made.bondHigh
  let identifier ← Felt.trimmed made.identifier
  return [("network", .text context.network), ("data_id", .text dataId),
    ("assertion_id", made.assertionId), ("domain_id", .text domainId),
    ("claim", .text (String.ofList claim)), ("asserter", made.asserter),
    ("callback_recipient", made.callbackRecipient),
    ("escalation_manager", made.escalationManager), ("caller", made.caller),
    ("expiration_timestamp", .text expiration), ("currency", made.currency),
    ("bond", .text bond), ("identifier", identifier), ("updated_at", header.timestamp),
    ("updated_at_tx", item.transactionHash)]

/-- The row of a new assertion. -/
def assertionInsert (header : Block.Header) (item : Block.Item) (context : Context) :
    Outcome (List Output) := do
  let made ← Payload.AssertionMade.ofData item.event.data
  return [.insert (← assertionColumns made header item context)]

/-- The update of a dispute. -/
def disputeUpdate (item : Block.Item) : Outcome (List Output) := do
  let disputed ← payload Payload.AssertionDisputed.ofData item
  return [.update [("assertion_id", disputed.assertionId)]
    [("disputer_caller", disputed.caller), ("disputer", disputed.disputer),
      ("disputed", .bool true), ("dispute_id", disputed.requestId)]]

/-- The update of a settlement. -/
def settlementUpdate (header : Block.Header) (item : Block.Item) : Outcome (List Output) := do
  let settled ← payload Payload.AssertionSettled.ofData item
  let refused ← Felt.isZero settled.settlementResolution
  let undisputed ← Felt.isZero settled.disputed
  return [.update [("assertion_id", settled.assertionId)]
    [("settlement_resolution", .bool (!refused)), ("disputed", .bool (!undisputed)),
      ("settle_caller", settled.settleCaller), ("settled", .bool true),
      ("updated_at", header.timestamp), ("updated_at_tx", item.transactionHash)]]

/-- The output of an event about assertions; other events have none. -/
def assertion (header : Block.Header) (item : Block.Item) (context : Context) :
    Outcome (List Output) := do
  let selector := item.event.selector
  if ← Felt.same selector (.text assertionMadeSelector) then
    assertionInsert header item context
  else if ← Felt.same selector (.text assertionDisputedSelector) then
    disputeUpdate item
  else if ← Felt.same selector (.text assertionSettledSelector) then
    settlementUpdate header item
  else return []

end OracleIndexer.Record
