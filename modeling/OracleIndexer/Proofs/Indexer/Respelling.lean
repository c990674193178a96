import OracleIndexer.Proofs.Block.Respelling
import OracleIndexer.Proofs.Indexer.Skipping
import OracleIndexer.Proofs.Noted
import OracleIndexer.Proofs.Record.Columns
set_option autoImplicit false

/-!
# Prices do not depend on the writing of felts

Felts are compared, read as numbers and read as short strings by their value.  So the indexers of
prices want the same events of two batches that differ only in the writing of numbers, and give the
same rows, or are refused by faults of one kind.
-/

namespace OracleIndexer

open Outcome (Agrees)

namespace Felt

variable {a b c d : Json}

theorem value_of_alike (h : Alike a b) : value a = value b := by
  cases h with
  | same => rfl
  | written left right => rw [value_of_writes left, value_of_writes right]

theorem column_of_alike (h : Alike a b) : column a = column b := by
  cases h with
  | same => rfl
  | written left right => rw [column_of_writes left, column_of_writes right]

theorem text_of_alike (h : Alike a b) : text a = text b := by
  cases h with
  | same => rfl
  | written left right => rw [text_of_writes left, text_of_writes right]

theorem eq_null_iff_of_alike (h : Alike a b) : a = .null ↔ b = .null := by
  cases h with
  | same => rfl
  | written left right => simp [ne_null_of_writes left, ne_null_of_writes right]

theorem same_null_right (a : Json) : same a .null = .ok false := by
  cases a <;> rfl

/-- Felts are compared by value. -/
theorem same_of_alike (hleft : Alike a b) (hright : Alike c d) : same a c = same b d := by
  by_cases ha : a = .null
  · rw [ha, (eq_null_iff_of_alike hleft).mp ha]
    rfl
  · by_cases hc : c = .null
    · rw [hc, (eq_null_iff_of_alike hright).mp hc, same_null_right, same_null_right]
    · have hb := fun hb => ha ((eq_null_iff_of_alike hleft).mpr hb)
      have hd := fun hd => hc ((eq_null_iff_of_alike hright).mpr hd)
      rw [same_of_ne_null ha hc, same_of_ne_null hb hd, value_of_alike hleft, value_of_alike hright]

/-- The text of a selector is a writing of its number. -/
theorem writes_selector (name : String) :
    Writes (Selector.number name) (.text (Selector.ofName name)) :=
  .hex (.inl rfl) Nat.toDigits_ne_nil (Text.HexWord.value?_toDigits _)

/-- Instants out of range are told of by the felt, as it is written. -/
theorem timestamp_agrees (write? : Int → Option (List Char)) (h : Alike a b) :
    Agrees Eq (Timestamp.column write? a) (Timestamp.column write? b) := by
  refine (Agrees.of_eq (value_of_alike h)).bind_eq fun n => ?_
  split
  · exact .ok rfl
  · exact .error (.timestampRange a b)

end Felt

/-! ## Payloads -/

namespace Payload

/-- Spot entries that say the same. -/
structure SpotEntry.Alike (a b : SpotEntry) : Prop where
  timestamp : Felt.Alike a.timestamp b.timestamp
  source : Felt.Alike a.source b.source
  publisher : Felt.Alike a.publisher b.publisher
  price : Felt.Alike a.price b.price
  pairId : Felt.Alike a.pairId b.pairId
  volume : Felt.Alike a.volume b.volume

/-- Future entries that say the same. -/
structure FutureEntry.Alike (a b : FutureEntry) : Prop where
  entry : a.toSpotEntry.Alike b.toSpotEntry
  expirationTimestamp : Felt.Alike a.expirationTimestamp b.expirationTimestamp

/-- Checkpoints that say the same. -/
structure Checkpoint.Alike (a b : Checkpoint) : Prop where
  pairId : Felt.Alike a.pairId b.pairId
  timestamp : Felt.Alike a.timestamp b.timestamp
  price : Felt.Alike a.price b.price
  aggregationMode : Felt.Alike a.aggregationMode b.aggregationMode
  sourceCount : Felt.Alike a.sourceCount b.sourceCount

section

variable {a b : List Json}

/-- Each felt of a layout is the one at its place; how many there are does not depend on writing. -/
theorem spotEntry_ofData_agrees (h : List.Forall₂ Felt.Alike a b) :
    Agrees SpotEntry.Alike ((SpotEntry.ofData a).mapError .layout)
      ((SpotEntry.ofData b).mapError .layout) := by
  rcases h with _ | ⟨h1, _ | ⟨h2, _ | ⟨h3, _ | ⟨h4, _ | ⟨h5, _ | ⟨h6, _⟩⟩⟩⟩⟩⟩
  case cons.cons.cons.cons.cons.cons => exact .ok ⟨h1, h2, h3, h4, h5, h6⟩
  all_goals exact .error (.same _)

theorem futureEntry_ofData_agrees (h : List.Forall₂ Felt.Alike a b) :
    Agrees FutureEntry.Alike ((FutureEntry.ofData a).mapError .layout)
      ((FutureEntry.ofData b).mapError .layout) := by
  rcases h with _ | ⟨h1, _ | ⟨h2, _ | ⟨h3, _ | ⟨h4, _ | ⟨h5, _ | ⟨h6, _ | ⟨h7, _⟩⟩⟩⟩⟩⟩⟩
  case cons.cons.cons.cons.cons.cons.cons => exact .ok ⟨⟨h1, h2, h3, h4, h5, h6⟩, h7⟩
  all_goals exact .error (.same _)

theorem checkpoint_ofData_agrees (h : List.Forall₂ Felt.Alike a b) :
    Agrees Checkpoint.Alike ((Checkpoint.ofData a).mapError .layout)
      ((Checkpoint.ofData b).mapError .layout) := by
  rcases h with _ | ⟨h1, _ | ⟨h2, _ | ⟨h3, _ | ⟨h4, _ | ⟨h5, _⟩⟩⟩⟩⟩
  case cons.cons.cons.cons.cons => exact .ok ⟨h1, h2, h3, h4, h5⟩
  all_goals exact .error (.same _)

end

end Payload

/-! ## Rows -/

namespace Record

variable {a b : Block.Item} {header : Block.Header} {context : Context}

theorem dataId_of_alike (h : a.Alike b) : dataId a = dataId b := by
  rw [dataId, dataId, h.transactionHash, h.event.index]

theorem blockColumns_of_alike (h : a.Alike b) : blockColumns header a = blockColumns header b := by
  rw [blockColumns, blockColumns, h.transactionHash]

theorem entryColumns_agrees {entry other : Payload.SpotEntry} (hentry : entry.Alike other)
    (h : a.Alike b) :
    Agrees Eq (entryColumns entry header a context) (entryColumns other header b context) := by
  refine (Agrees.of_eq (Felt.text_of_alike hentry.pairId)).bind_eq fun pairId => ?_
  refine (Agrees.of_eq (dataId_of_alike h)).bind_eq fun id => ?_
  refine (Agrees.of_eq (Felt.column_of_alike hentry.price)).bind_eq fun price => ?_
  refine (Felt.timestamp_agrees _ hentry.timestamp).bind_eq fun timestamp => ?_
  refine (Agrees.of_eq (Felt.text_of_alike hentry.publisher)).bind_eq fun publisher => ?_
  refine (Agrees.of_eq (Felt.text_of_alike hentry.source)).bind_eq fun source => ?_
  refine (Agrees.of_eq (Felt.column_of_alike hentry.volume)).bind_eq fun volume => ?_
  rw [blockColumns_of_alike h]
  exact .ok rfl

theorem spotEntry_agrees (h : a.Alike b) :
    Agrees Eq (spotEntry header a context) (spotEntry header b context) := by
  refine (Payload.spotEntry_ofData_agrees h.event.data).bind fun _ _ entry => ?_
  exact (entryColumns_agrees entry h).bind_eq fun _ => .ok rfl

theorem futureEntry_agrees (h : a.Alike b) :
    Agrees Eq (futureEntry header a context) (futureEntry header b context) := by
  refine (Payload.futureEntry_ofData_agrees h.event.data).bind fun _ _ entry => ?_
  refine (entryColumns_agrees entry.entry h).bind_eq fun columns => ?_
  exact (Felt.timestamp_agrees _ entry.expirationTimestamp).bind_eq fun _ => .ok rfl

theorem checkpoint_agrees (h : a.Alike b) :
    Agrees Eq (checkpoint header a context) (checkpoint header b context) := by
  refine (Payload.checkpoint_ofData_agrees h.event.data).bind fun _ _ entry => ?_
  refine (Agrees.of_eq (Felt.text_of_alike entry.pairId)).bind_eq fun pairId => ?_
  refine (Agrees.of_eq (dataId_of_alike h)).bind_eq fun id => ?_
  refine (Agrees.of_eq (Felt.column_of_alike entry.price)).bind_eq fun price => ?_
  refine (Felt.timestamp_agrees _ entry.timestamp).bind_eq fun timestamp => ?_
  refine (Agrees.of_eq (Felt.column_of_alike entry.aggregationMode)).bind_eq fun mode => ?_
  refine (Agrees.of_eq (Felt.column_of_alike entry.sourceCount)).bind_eq fun count => ?_
  rw [blockColumns_of_alike h, h.senderAddress]
  exact .ok rfl

end Record

/-! ## Batches -/

namespace Indexer

/-- The indexers of prices. -/
def ofPrices : List Indexer := [spot, future, spotCheckpoint]

variable {indexer : Indexer} {context : Record.Context} {skipFailed : Bool}
  {header : Block.Header} {left right : Json}

theorem outputs_agrees (hindexer : indexer ∈ ofPrices) {a b : Block.Item} (h : a.Alike b) :
    Agrees Eq (indexer.mapping.outputs header a context)
      (indexer.mapping.outputs header b context) := by
  simp only [ofPrices, List.mem_cons, List.not_mem_nil, or_false] at hindexer
  rcases hindexer with rfl | rfl | rfl
  · exact Record.spotEntry_agrees h
  · exact Record.futureEntry_agrees h
  · exact Record.checkpoint_agrees h

theorem sameAsAny_of_alike {a b : Json} (h : Felt.Alike a b) (selectors : List String) :
    sameAsAny a selectors = sameAsAny b selectors := by
  induction selectors with
  | nil => rfl
  | cons s rest ih => rw [sameAsAny, sameAsAny, Felt.same_of_alike h (.same _), ih]

theorem selector_alike {a b : Block.Event} (h : a.Alike b) : Felt.Alike a.selector b.selector := by
  have hkeys := h.keys
  unfold Block.Event.selector
  generalize a.keys = keys at hkeys
  generalize b.keys = others at hkeys
  cases hkeys with
  | nil => exact .same _
  | cons first _ => exact first

/-- Which events are wanted does not depend on the writing of sender, selector and contract. -/
theorem wants_of_alike (hcontract : Felt.Alike left right) {a b : Block.Event} (h : a.Alike b) :
    indexer.wants a left = indexer.wants b right := by
  rw [wants, wants, Felt.same_of_alike h.fromAddress hcontract,
    sameAsAny_of_alike (selector_alike h)]

theorem mapItem_agrees (hindexer : indexer ∈ ofPrices) {a b : Block.Item} (h : a.Alike b) :
    Agrees Eq (indexer.mapItem context skipFailed header a).result
      (indexer.mapItem context skipFailed header b).result := by
  have houtputs : Agrees Eq (indexer.mapping.outputs header a context)
      (indexer.mapping.outputs header b context) := outputs_agrees hindexer h
  unfold mapItem
  generalize indexer.mapping.outputs header a context = x at houtputs
  generalize indexer.mapping.outputs header b context = y at houtputs
  cases houtputs with
  | ok related => exact .ok related
  | error kind =>
    simp only [kind.isSkippable_eq]
    split
    · exact .ok rfl
    · exact .error kind

/-- A strict run of an event gives what the mapping gives. -/
theorem mapItem_strict (item : Block.Item) :
    (indexer.mapItem context false header item).result
      = indexer.mapping.outputs header item context := by
  unfold mapItem
  cases indexer.mapping.outputs header item context <;> rfl

theorem transformItem_agrees (hindexer : indexer ∈ ofPrices) (hcontract : Felt.Alike left right)
    {a b : Block.Item} (h : a.Alike b) :
    Agrees Eq (indexer.transformItem context (some left) skipFailed header a).result
      (indexer.transformItem context (some right) skipFailed header b).result := by
  rw [transformItem, transformItem, wantsItem, wantsItem, wants_of_alike hcontract h.event]
  split
  · exact .error (.same _)
  · exact .ok rfl
  · exact mapItem_agrees hindexer h

theorem transformItems_agrees (hindexer : indexer ∈ ofPrices) (hcontract : Felt.Alike left right)
    {a b : List Block.Item} (h : List.Forall₂ Block.Item.Alike a b) :
    Agrees Eq (indexer.transformItems context (some left) skipFailed header a).result
      (indexer.transformItems context (some right) skipFailed header b).result := by
  induction h with
  | nil => exact .ok rfl
  | cons first _ ih =>
    rw [transformItems, transformItems, Noted.result_bind, Noted.result_bind]
    refine (transformItem_agrees hindexer hcontract first).bind_eq fun outputs => ?_
    rw [Noted.result_bind, Noted.result_bind]
    exact ih.bind_eq fun more => .ok rfl

/-- For the indexers of prices two batches that differ only in the writing of senders, keys and data
give the same outputs, or are refused by faults of one kind, whichever writings of a number their
contract is given by, and whether failing events are left out or not. -/
theorem transform_of_respelled {indexer : Indexer} (hindexer : indexer ∈ ofPrices)
    {a b left right : Json} {n : Nat} (h : Block.Respelled a b) (hleft : Felt.Writes n left)
    (hright : Felt.Writes n right) (context : Record.Context) (skipFailed : Bool) :
    Agrees Eq (indexer.transform a context (some left) skipFailed).result
      (indexer.transform b context (some right) skipFailed).result := by
  rw [transform, transform, Noted.result_bind, Noted.result_bind]
  refine (Block.batch_ofDocument_agrees h).bind fun first second alike => ?_
  rw [alike.header]
  exact transformItems_agrees hindexer (.written hleft hright) alike.items

/-- A batch of one checkpoint, as a document. -/
private def checkpointDocument (sender selector : Json) (data : List Json) : Json :=
  .object [("header", .object [("blockNumber", .int 7)]), ("events", .array [.object [("event",
    .object [("fromAddress", sender), ("keys", .array [selector]), ("data", .array data)])]])]

/-- The data of a checkpoint in hexadecimal digits, its price apart. -/
private def hexData (price : Json) : List Json :=
  [.text "0x00425443", .text "0xa", price, .text "0x0", .text "0x0c"]

/-- The checkpoint in hexadecimal digits. -/
private def hexCheckpoint (price : Json) : Json :=
  checkpointDocument (.text "0xC0") (.text (Selector.ofName "CheckpointSpotEntry")) (hexData price)

/-- A checkpoint in decimal digits and as numbers. -/
private def plainCheckpoint : Json :=
  checkpointDocument (.text "192") (.int (Selector.number "CheckpointSpotEntry"))
    [.text "4346947", .text "0010", .int 255, .text "0", .int 12]

/-- The item of the checkpoint in hexadecimal digits. -/
private def hexCheckpointItem (price : Json) : Block.Item :=
  Record.bareItem (Selector.ofName "CheckpointSpotEntry") (hexData price)

/-- The columns of the checkpoint's row. -/
private def checkpointColumns (price : Json) : Columns :=
  [("network", .text "net"), ("pair_id", .text "BTC"), ("data_id", .text "None_0"),
    ("block_hash", .null), ("block_number", .int 7), ("block_timestamp", .null),
    ("transaction_hash", .null), ("price", price),
    ("timestamp", .text "1970-01-01T00:00:10.000Z"), ("aggregation_mode", .int 0),
    ("nb_sources_aggregated", .int 12), ("sender_address", .null)]

private theorem respelled_checkpoints :
    Block.Respelled (hexCheckpoint (.text "0X0fF")) plainCheckpoint := by
  refine .object (.cons ⟨rfl, .other _ _⟩ (.cons ⟨rfl, .events (.array (.cons (.object
    (.cons ⟨rfl, .event (.object ?event)⟩ .nil)) .nil))⟩ .nil))
  refine .cons ⟨rfl, .sender ?sender⟩ (.cons ⟨rfl, .keys (.array (.cons ?selector .nil))⟩
    (.cons ⟨rfl, .data (.array (.cons ?pair (.cons ?time (.cons ?price (.cons ?mode
      (.cons ?count .nil))))))⟩ .nil))
  case sender =>
    exact .written (.hex (.inl rfl) (by simp) rfl) (.decimal (by simp) rfl (by decide))
  case selector => exact .written (Felt.writes_selector _) .whole
  case pair =>
    exact .written (.hex (.inl rfl) (by simp) rfl) (.decimal (by simp) rfl (by decide))
  case time => exact .written (.hex (.inl rfl) (by simp) rfl) (.decimal (by simp) rfl (by decide))
  case price => exact .written (.hex (.inr rfl) (by simp) rfl) .whole
  case mode => exact .written (.hex (.inl rfl) (by simp) rfl) (.decimal (by simp) rfl (by decide))
  case count => exact .written (.hex (.inl rfl) (by simp) rfl) .whole

private theorem outputs_hexCheckpointItem (price : Json) :
    spotCheckpoint.mapping.outputs ⟨7, .null, .null⟩ (hexCheckpointItem price) ⟨"net", ⟨none, none⟩⟩
      = (Felt.column price).map fun worth => [.row (checkpointColumns worth)] := by
  have hpair : Felt.Writes 4346947 (.text "0x00425443") := .hex (.inl rfl) (by simp) rfl
  have htime : Felt.Writes 10 (.text "0xa") := .hex (.inl rfl) (by simp) rfl
  have hmode : Felt.Writes 0 (.text "0x0") := .hex (.inl rfl) (by simp) rfl
  have hcount : Felt.Writes 12 (.text "0x0c") := .hex (.inl rfl) (by simp) rfl
  have htext : Felt.textOf 4346947 = "BTC" := by decide
  have hinstant : Timestamp.ofSeconds? 10 = some "1970-01-01T00:00:10.000Z".toList := by
    decide +kernel
  have hread : Payload.Checkpoint.ofData (hexCheckpointItem price).event.data
      = .ok ⟨.text "0x00425443", .text "0xa", price, .text "0x0", .text "0x0c"⟩ := rfl
  have hid : Record.dataId (hexCheckpointItem price) = .ok "None_0" := Record.dataId_bareItem _ _
  show Record.checkpoint _ _ _ = _
  simp only [Record.checkpoint, Record.payload, hread, Outcome.mapError_ok, Outcome.ok_bind,
    Felt.text_of_writes hpair, htext, hid, Timestamp.ofSeconds, Timestamp.column,
    Felt.value_of_writes htime, Nat.cast_ofNat, hinstant, Felt.column_of_writes hmode,
    Felt.column_of_writes hcount]
  cases Felt.column price <;> rfl

/-- The selector is a digest: it is compared by the number that it writes, and never computed. -/
private theorem wants_hexCheckpointItem (price : Json) :
    spotCheckpoint.wants (hexCheckpointItem price).event (.text "0xC0") = .ok true := by
  have hcontract : Felt.Writes 192 (.text "0xC0") := .hex (.inl rfl) (by simp) rfl
  have hsent : Felt.same (hexCheckpointItem price).event.fromAddress (.text "0xC0") = .ok true :=
    Felt.same_of_writes hcontract hcontract
  have hselector : Felt.same (hexCheckpointItem price).event.selector
      (.text (Selector.ofName "CheckpointSpotEntry")) = .ok true :=
    Felt.same_of_writes (Felt.writes_selector _) (Felt.writes_selector _)
  have hselectors : spotCheckpoint.selectors = [Selector.ofName "CheckpointSpotEntry"] := rfl
  simp [wants, hsent, hselectors, sameAsAny, hselector]

/-- The checkpoint gives its row exactly if the price reads. -/
private theorem transform_hexCheckpoint (price : Json) :
    (spotCheckpoint.transform (hexCheckpoint price) ⟨"net", ⟨none, none⟩⟩ (some (.text "0xC0"))
      false).result = (Felt.column price).map fun worth => [.row (checkpointColumns worth)] := by
  have hread : Block.Batch.ofDocument (hexCheckpoint price)
      = .ok ⟨⟨7, .null, .null⟩, [hexCheckpointItem price]⟩ := rfl
  have hitem : (spotCheckpoint.transformItem ⟨"net", ⟨none, none⟩⟩ (some (.text "0xC0")) false
      ⟨7, .null, .null⟩ (hexCheckpointItem price)).result
        = (Felt.column price).map fun worth => [.row (checkpointColumns worth)] := by
    rw [transformItem, wantsItem, wants_hexCheckpointItem, ← outputs_hexCheckpointItem]
    exact mapItem_strict _
  rw [transform, Noted.result_bind, Noted.plain, hread, Outcome.ok_bind, transformItems,
    Noted.result_bind, hitem]
  cases Felt.column price <;> rfl

/-- A checkpoint in decimal digits and numbers gives the row that it gives in hexadecimal digits. -/
theorem transform_of_respelled_checkpoint :
    Block.Respelled (hexCheckpoint (.text "0X0fF")) plainCheckpoint ∧
    (spotCheckpoint.transform (hexCheckpoint (.text "0X0fF")) ⟨"net", ⟨none, none⟩⟩
      (some (.text "0xC0")) false).result = .ok [.row (checkpointColumns (.int 255))] ∧
    (spotCheckpoint.transform plainCheckpoint ⟨"net", ⟨none, none⟩⟩ (some (.int 192))
      false).result = .ok [.row (checkpointColumns (.int 255))] := by
  have hindexer : spotCheckpoint ∈ ofPrices := by simp [ofPrices]
  have hcontract : Felt.Writes 192 (.text "0xC0") := .hex (.inl rfl) (by simp) rfl
  have hprice : Felt.Writes 255 (.text "0X0fF") := .hex (.inr rfl) (by simp) rfl
  have hrow := transform_hexCheckpoint (.text "0X0fF")
  rw [Felt.column_of_writes hprice] at hrow
  have hagrees := transform_of_respelled hindexer respelled_checkpoints hcontract .whole
    ⟨"net", ⟨none, none⟩⟩ false
  refine ⟨respelled_checkpoints, hrow, ?_⟩
  rw [hrow] at hagrees
  exact hagrees.eq_of_ok

/-- A five behind more zeros than are converted. -/
private def paddedFive : List Char := List.replicate Text.Numeral.digitLimit '0' ++ ['5']

/-- A price of five in hexadecimal digits gives a row.  In decimal digits, behind as many zeros as
digits are converted, the same price is refused. -/
theorem not_transform_of_padded_decimal :
    Text.HexWord.valueFrom 10 0 paddedFive = some 5 ∧
    (spotCheckpoint.transform (hexCheckpoint (.text "0x5")) ⟨"net", ⟨none, none⟩⟩
      (some (.text "0xC0")) false).result = .ok [.row (checkpointColumns (.int 5))] ∧
    (spotCheckpoint.transform (hexCheckpoint (.text (String.ofList paddedFive)))
      ⟨"net", ⟨none, none⟩⟩ (some (.text "0xC0")) false).result
        = .error (.value (.longNumeral paddedFive.length)) := by
  have hprice : Felt.Writes 5 (.text "0x5") := .hex (.inl rfl) (by simp) rfl
  have hvalue : Text.HexWord.valueFrom 10 0 paddedFive = some 5 :=
    Text.HexWord.valueFrom_replicate_append (by decide) Text.Numeral.digitLimit ['5']
  have hlong : Text.Numeral.digitLimit < paddedFive.length := by
    rw [paddedFive, List.length_append, List.length_replicate]
    exact Nat.lt_succ_self _
  refine ⟨hvalue, ?_, ?_⟩
  · rw [transform_hexCheckpoint, Felt.column_of_writes hprice]
    rfl
  · have hne : paddedFive ≠ [] := by simp [paddedFive]
    have hcolumn : Felt.column (.text (String.ofList paddedFive))
        = .error (.value (.longNumeral paddedFive.length)) := by
      rw [Felt.column, Felt.number_text, String.toList_ofList, Felt.ofText_of_decimal hne hvalue,
        if_pos hlong]
      rfl
    rw [transform_hexCheckpoint, hcolumn]
    rfl

end Indexer

end OracleIndexer
