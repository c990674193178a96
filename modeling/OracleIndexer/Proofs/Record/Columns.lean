import OracleIndexer.Proofs.Block.Reading
import OracleIndexer.Proofs.Felt.Writing
import OracleIndexer.Proofs.Payload.AssertionFelts
import OracleIndexer.Record.Assertion
import OracleIndexer.Record.Price
set_option autoImplicit false

/-!
# What columns hold

The columns of price entries and of new assertions, as far as they tell an event's row from others
or are made of several felts.
-/

namespace OracleIndexer.Record

variable {header : Block.Header} {item : Block.Item} {context : Context} {columns : Columns}

/-- An item has an identifier exactly if hash and index can be written. -/
theorem dataId_eq_ok_iff {id : String} :
    dataId item = .ok id ↔ item.transactionHash.isWritable = true ∧
      Text.Numeral.isWritable item.event.index = true ∧
      item.transactionHash.shownText ++ "_" ++ toString item.event.index = id := by
  have hindex : (Json.int item.event.index).shownText = toString item.event.index :=
    String.ofList_toList
  simp only [dataId, Outcome.bind_eq_ok_iff, Json.asText_eq_ok_iff, Outcome.pure_eq_ok,
    Except.ok.injEq]
  constructor
  · rintro ⟨_, ⟨hhash, rfl⟩, _, ⟨hwritable, rfl⟩, rfl⟩
    exact ⟨hhash, hwritable, by rw [hindex]⟩
  · rintro ⟨hhash, hwritable, rfl⟩
    exact ⟨_, ⟨hhash, rfl⟩, _, ⟨hwritable, hindex⟩, rfl⟩

/-- The columns of a price entry hold the identifier of the event's row. -/
theorem lookup_of_entryColumns {entry : Payload.SpotEntry}
    (h : entryColumns entry header item context = .ok columns) :
    ∃ id, dataId item = .ok id ∧ columns.lookup "data_id" = some (.text id) := by
  simp only [entryColumns, Outcome.bind_eq_ok_iff, Outcome.pure_eq_ok, Except.ok.injEq] at h
  obtain ⟨_, _, id, hid, _, _, _, _, _, _, _, _, _, _, rfl⟩ := h
  exact ⟨id, hid, rfl⟩

/-- What the columns of a new assertion hold: identifiers as they are written or without padding,
and amounts. -/
structure HoldsAssertion (made : Payload.AssertionMade) (item : Block.Item) (columns : Columns) :
    Prop where
  dataId : ∃ id, Record.dataId item = .ok id ∧ columns.lookup "data_id" = some (.text id)
  assertionId : columns.lookup "assertion_id" = some made.assertionId
  identifier : ∃ identifier, Felt.trimmed made.identifier = .ok identifier ∧
    columns.lookup "identifier" = some identifier
  domainId : ∃ domainId, Felt.amount made.domainIdLow made.domainIdHigh = .ok domainId ∧
    columns.lookup "domain_id" = some (.text domainId)
  bond : ∃ bond, Felt.amount made.bondLow made.bondHigh = .ok bond ∧
    columns.lookup "bond" = some (.text bond)

theorem holdsAssertion_of_assertionColumns {made : Payload.AssertionMade}
    (h : assertionColumns made header item context = .ok columns) :
    HoldsAssertion made item columns := by
  simp only [assertionColumns, Outcome.bind_eq_ok_iff, Outcome.pure_eq_ok, Except.ok.injEq] at h
  obtain ⟨_, _, id, hid, domainId, hdomainId, _, _, _, _, bond, hbond, identifier, hidentifier,
    rfl⟩ := h
  exact ⟨⟨id, hid, rfl⟩, rfl, ⟨identifier, hidentifier, rfl⟩, ⟨domainId, hdomainId, rfl⟩,
    ⟨bond, hbond, rfl⟩⟩

/-- An assertion has columns if its felts can be read, and an identifier is told. -/
theorem exists_assertionColumns (made : Payload.AssertionMade) {words : List Json}
    {claim : List Char} {id domainId expiration bond : String} {identifier : Json}
    (hwords : Felt.atLast Felt.trimmed made.claimWords = .ok words)
    (hclaim : Felt.concatenated words = .ok claim) (hid : dataId item = .ok id)
    (hdomainId : Felt.amount made.domainIdLow made.domainIdHigh = .ok domainId)
    (hexpiration : Timestamp.ofSeconds made.expirationTimestamp = .ok expiration)
    (hbond : Felt.amount made.bondLow made.bondHigh = .ok bond)
    (hidentifier : Felt.trimmed made.identifier = .ok identifier) (header : Block.Header)
    (context : Context) :
    ∃ columns, assertionColumns made header item context = .ok columns ∧
      columns.lookup "claim" = some (.text (String.ofList claim)) := by
  simp only [assertionColumns, hwords, hid, hdomainId, hclaim, hexpiration, hbond, hidentifier,
    Outcome.ok_bind, Outcome.pure_eq_ok]
  exact ⟨_, rfl, rfl⟩

/-! ## Examples -/

theorem writes_assertionMadeSelector :
    Felt.Writes 0x2b74480ce203d4ca6ee46c062a2d658129587cdccb3904c52a6f4dfb406a3f2
      (.text assertionMadeSelector) :=
  .hex (.inl rfl) (by decide) (by decide)

/-- The item of an event with a selector and some felts, of which nothing else is told. -/
def bareItem (selector : String) (felts : List Json) : Block.Item where
  event := ⟨.text "0xC0", [.text selector], felts, 0⟩
  transactionHash := .null
  senderAddress := .null

theorem dataId_bareItem (selector : String) (felts : List Json) :
    dataId (bareItem selector felts) = .ok "None_0" := by
  have hindex : Text.Numeral.isWritable 0 = true :=
    Text.Numeral.isWritable_of_lt (by decide : 1 ≤ Text.Numeral.digitLimit) (by decide)
  exact dataId_eq_ok_iff.mpr ⟨rfl, hindex, rfl⟩

theorem selected_bareItem (felts : List Json) :
    Felt.same (bareItem assertionMadeSelector felts).event.selector (.text assertionMadeSelector)
      = .ok true :=
  Felt.same_of_writes writes_assertionMadeSelector writes_assertionMadeSelector

theorem domainId_plain :
    Felt.amount Payload.AssertionMade.plain.domainIdLow Payload.AssertionMade.plain.domainIdHigh
      = .ok "5" := rfl

theorem expiration_plain :
    Timestamp.ofSeconds Payload.AssertionMade.plain.expirationTimestamp
      = .ok "1970-01-01T00:00:00.000Z" := rfl

theorem bond_plain :
    Felt.amount Payload.AssertionMade.plain.bondLow Payload.AssertionMade.plain.bondHigh
      = .ok "16" := rfl

theorem claimWords_plain :
    Felt.atLast Felt.trimmed Payload.AssertionMade.plain.claimWords = .ok [.text "0x"] := rfl

theorem concatenated_bare : Felt.concatenated [.text "0x"] = .ok [] := rfl

theorem identifier_plain :
    Felt.trimmed Payload.AssertionMade.plain.identifier = .ok (.text "0xabc") := rfl

/-- A dispute with some data, as a document. -/
def disputeDocument (data : List String) : Json :=
  Block.eventDocument "0xC0" assertionDisputedSelector data

/-- A batch of a dispute of an assertion. -/
def disputeBatch (block : Int) (assertionId : String) : Json :=
  Block.batchDocument block [disputeDocument [assertionId, "0x1", "0x2", "0x3"]]

/-- What becomes of such a dispute. -/
def disputeOutput (assertionId : String) : Output :=
  .update [("assertion_id", .text assertionId)] [("disputer_caller", .text "0x1"),
    ("disputer", .text "0x2"), ("disputed", .bool true), ("dispute_id", .text "0x3")]

end OracleIndexer.Record
