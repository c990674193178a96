import OracleIndexer.Indexer.Mapping
import OracleIndexer.Proofs.Json.Spelling
import OracleIndexer.Proofs.Record.Columns
set_option autoImplicit false

/-!
# Identifiers of rows

A row is identified by the hash of its transaction, an underscore and the index of its event.  The
hash may hold underscores of its own, but the text of an index holds none, so the identifier is cut
at its last underscore and tells both.  Rows of prices and inserted rows carry the identifier of the
event that they come from, and so come from one event if they share it.  An event whose index has
too many digits to be written has no identifier, and puts no such row.
-/

namespace OracleIndexer

/-! ## Texts around a separator -/

namespace Text

variable {separator : Char} {front front' back back' : List Char}

/-- What stands behind the last separator is found from the end. -/
theorem takeWhile_reverse_of_not_mem (front : List Char) (h : separator ∉ back) :
    (front ++ separator :: back).reverse.takeWhile (· != separator) = back.reverse := by
  have hback : ∀ c ∈ back.reverse, (c != separator) = true := by
    intro c hc
    rw [bne_iff_ne]
    rintro rfl
    exact h (List.mem_reverse.mp hc)
  rw [List.reverse_append, List.reverse_cons, List.append_assoc, List.singleton_append,
    List.takeWhile_append_of_pos hback, List.takeWhile_cons_of_neg (by simp), List.append_nil]

/-- Texts with no separator in their backs are one text only if their fronts and backs are. -/
theorem append_separator_inj (h : separator ∉ back) (h' : separator ∉ back') :
    front ++ separator :: back = front' ++ separator :: back' ↔ front = front' ∧ back = back' := by
  constructor
  · intro heq
    have hreversed : back.reverse = back'.reverse := by
      rw [← takeWhile_reverse_of_not_mem front h, heq, takeWhile_reverse_of_not_mem front' h']
    obtain rfl : back = back' := List.reverse_injective hreversed
    exact ⟨List.append_cancel_right heq, rfl⟩
  · rintro ⟨rfl, rfl⟩
    rfl

end Text

namespace Json

theorem underscore_not_mem_writeInt (n : Int) : '_' ∉ writeInt n := by
  intro hmem
  rcases mem_writeInt hmem with hsign | hdigit
  · cases hsign
  · cases hdigit

end Json

/-! ## Identifiers of events -/

namespace Record

section

variable {item other : Block.Item} {hash otherHash id otherId : String}

/-- An event with a known hash has an identifier exactly if its index can be written. -/
theorem exists_dataId_iff (h : item.transactionHash = .text hash) :
    (∃ id, dataId item = .ok id) ↔ item.event.index.natAbs < 10 ^ Text.Numeral.digitLimit := by
  simp only [dataId_eq_ok_iff, h, Text.Numeral.isWritable_iff]
  constructor
  · rintro ⟨_, _, hindex, _⟩
    exact hindex
  · intro hindex
    exact ⟨_, rfl, hindex, rfl⟩

theorem dataId_of_long (h : item.transactionHash = .text hash)
    (hindex : Text.Numeral.isWritable item.event.index = false) :
    dataId item = .error (.value .unwritable) := by
  have hlong : (Json.int item.event.index).asText = .error (.value .unwritable) := by
    rw [Json.asText, Json.isWritable, hindex]
    rfl
  rw [dataId, h, Json.asText_text, Outcome.ok_bind, hlong, Outcome.error_bind]

theorem toList_dataId (h : item.transactionHash = .text hash) (hid : dataId item = .ok id) :
    id.toList = hash.toList ++ '_' :: Json.writeInt item.event.index := by
  obtain ⟨_, _, rfl⟩ := dataId_eq_ok_iff.mp hid
  rw [h, Json.shownText_text, String.toList_append, String.toList_append, List.append_assoc]
  rfl

/-- The identifier tells the hash and the index. -/
theorem dataId_eq_iff (h : item.transactionHash = .text hash)
    (hother : other.transactionHash = .text otherHash) (hid : dataId item = .ok id)
    (hotherId : dataId other = .ok otherId) :
    id = otherId ↔ hash = otherHash ∧ item.event.index = other.event.index := by
  rw [← String.toList_inj, toList_dataId h hid, toList_dataId hother hotherId,
    Text.append_separator_inj (Json.underscore_not_mem_writeInt _)
      (Json.underscore_not_mem_writeInt _),
    String.toList_inj, Json.writeInt_inj]

end

/-- A hash that is unknown shows as a word, and so does the hash that is this word. -/
example (event : Block.Event) (sender : Json) :
    dataId ⟨event, .null, sender⟩ = dataId ⟨event, .text "None", sender⟩ := rfl

end Record

/-! ## Rows that carry an identifier -/

/-- The identifier among the columns of an output. -/
def Output.dataId? : Output → Option Json
  | .row columns => columns.lookup "data_id"
  | .insert columns => columns.lookup "data_id"
  | .update key changes => (key ++ changes).lookup "data_id"

/-- Outputs that put a row with an identity: rows of prices, and rows that are inserted. -/
inductive Mapping.PutsRow : Mapping → Output → Prop
  | spotEntry (columns : Columns) : PutsRow .spotEntry (.row columns)
  | futureEntry (columns : Columns) : PutsRow .futureEntry (.row columns)
  | checkpoint (columns : Columns) : PutsRow .checkpoint (.row columns)
  | insert (mapping : Mapping) (columns : Columns) : PutsRow mapping (.insert columns)

/-- An output that puts a row for an event, at some block and in some context. -/
structure Output.IsRowFor (output : Output) (mapping : Mapping) (item : Block.Item) : Prop where
  made : ∃ header context outputs, mapping.outputs header item context = .ok outputs ∧
    output ∈ outputs
  putsRow : mapping.PutsRow output

/-- An outcome whose rows, inserted or not, carry the identifier of an item. -/
def Outcome.Identified (item : Block.Item) (x : Outcome (List Output)) : Prop :=
  ∀ outputs, x = .ok outputs → ∀ columns, .row columns ∈ outputs ∨ .insert columns ∈ outputs →
    ∃ id, Record.dataId item = .ok id ∧ columns.lookup "data_id" = some (.text id)

namespace Outcome.Identified

variable {item : Block.Item} {id : String}

theorem nil : Identified item (.ok []) := by
  intro outputs h columns hmem
  obtain rfl := Except.ok.inj h
  simp at hmem

theorem row {columns : Columns} (hid : Record.dataId item = .ok id)
    (hcolumn : columns.lookup "data_id" = some (.text id)) :
    Identified item (.ok [.row columns]) := by
  intro outputs h found hmem
  obtain rfl := Except.ok.inj h
  obtain rfl : found = columns := by simpa using hmem
  exact ⟨id, hid, hcolumn⟩

theorem insert {columns : Columns} (hid : Record.dataId item = .ok id)
    (hcolumn : columns.lookup "data_id" = some (.text id)) :
    Identified item (.ok [.insert columns]) := by
  intro outputs h found hmem
  obtain rfl := Except.ok.inj h
  obtain rfl : found = columns := by simpa using hmem
  exact ⟨id, hid, hcolumn⟩

theorem update (key changes : Columns) : Identified item (.ok [.update key changes]) := by
  intro outputs h columns hmem
  obtain rfl := Except.ok.inj h
  simp at hmem

theorem bind {α : Type} {x : Outcome α} {f : α → Outcome (List Output)}
    (hf : ∀ a, x = .ok a → Identified item (f a)) : Identified item (x >>= f) := by
  intro outputs h
  obtain ⟨a, hx, ha⟩ := bind_eq_ok_iff.mp h
  exact hf a hx outputs ha

/-- Behind a test. -/
theorem test {x : Outcome Bool} {yes no : Outcome (List Output)} (hyes : Identified item yes)
    (hno : Identified item no) : Identified item (x >>= fun b => if b = true then yes else no) := by
  refine bind fun b _ => ?_
  cases b with
  | true => exact hyes
  | false => exact hno

end Outcome.Identified

namespace Record

open Outcome (Identified)

section

variable (header : Block.Header) (item : Block.Item) (context : Context)

theorem identified_spotEntry : Identified item (spotEntry header item context) := by
  refine .bind fun _ _ => .bind fun _ hcolumns => ?_
  obtain ⟨id, hid, hcolumn⟩ := lookup_of_entryColumns hcolumns
  exact .row hid hcolumn

theorem identified_futureEntry : Identified item (futureEntry header item context) := by
  refine .bind fun _ _ => .bind fun _ hcolumns => .bind fun _ _ => ?_
  obtain ⟨id, hid, hcolumn⟩ := lookup_of_entryColumns hcolumns
  refine .row hid ?_
  rw [List.lookup_append, hcolumn]
  rfl

theorem identified_checkpoint : Identified item (checkpoint header item context) :=
  .bind fun _ _ => .bind fun _ _ => .bind fun _ hid => .bind fun _ _ => .bind fun _ _ =>
    .bind fun _ _ => .bind fun _ _ => .row hid rfl

theorem identified_requestInsert : Identified item (requestInsert header item context) :=
  .bind fun _ _ => .bind fun _ hid => .bind fun _ _ => .bind fun _ _ => .bind fun _ _ =>
    .bind fun _ _ => .bind fun _ _ => .insert hid rfl

theorem identified_statusUpdate : Identified item (statusUpdate header item) :=
  .bind fun _ _ => .bind fun _ _ => .bind fun _ _ => .update _ _

theorem identified_randomness : Identified item (randomness header item context) :=
  .test (identified_requestInsert header item context)
    (.test (identified_statusUpdate header item) .nil)

theorem identified_assertionInsert : Identified item (assertionInsert header item context) := by
  refine .bind fun _ _ => .bind fun _ hcolumns => ?_
  obtain ⟨id, hid, hcolumn⟩ := (holdsAssertion_of_assertionColumns hcolumns).dataId
  exact .insert hid hcolumn

theorem identified_disputeUpdate : Identified item (disputeUpdate item) :=
  .bind fun _ _ => .update _ _

theorem identified_settlementUpdate : Identified item (settlementUpdate header item) :=
  .bind fun _ _ => .bind fun _ _ => .bind fun _ _ => .update _ _

theorem identified_assertion : Identified item (assertion header item context) :=
  .test (identified_assertionInsert header item context)
    (.test (identified_disputeUpdate item)
      (.test (identified_settlementUpdate header item) .nil))

/-- A feed update inserts nothing. -/
theorem insert_not_mem_feedUpdate {columns : Columns} {outputs : List Output}
    (h : feedUpdate header item context = .ok outputs) : .insert columns ∉ outputs := by
  simp only [feedUpdate, Outcome.bind_eq_ok_iff, Outcome.pure_eq_ok, Except.ok.injEq] at h
  obtain ⟨_, _, _, _, _, _, rfl⟩ := h
  simp

theorem identified_outputs {mapping : Mapping} (hmapping : mapping ≠ .feedUpdate) :
    Identified item (mapping.outputs header item context) := by
  cases mapping with
  | spotEntry => exact identified_spotEntry header item context
  | futureEntry => exact identified_futureEntry header item context
  | checkpoint => exact identified_checkpoint header item context
  | feedUpdate => exact absurd rfl hmapping
  | randomness => exact identified_randomness header item context
  | assertion => exact identified_assertion header item context

end

/-- A row that an event puts carries the event's identifier. -/
theorem dataId?_of_isRowFor {output : Output} {mapping : Mapping} {item : Block.Item}
    (h : output.IsRowFor mapping item) :
    ∃ id, dataId item = .ok id ∧ output.dataId? = some (.text id) := by
  obtain ⟨⟨header, context, outputs, houtputs, hmem⟩, hputs⟩ := h
  have hmapping : mapping ≠ .feedUpdate := by
    rintro rfl
    cases hputs with
    | insert _ columns => exact insert_not_mem_feedUpdate header item context houtputs hmem
  have hidentified := identified_outputs header item context hmapping outputs houtputs
  cases hputs with
  | spotEntry columns => exact hidentified columns (.inl hmem)
  | futureEntry columns => exact hidentified columns (.inl hmem)
  | checkpoint columns => exact hidentified columns (.inl hmem)
  | insert _ columns => exact hidentified columns (.inr hmem)

/-- Events with known hashes have identifiers exactly if their indexes can be written, and then the
same one exactly if hash and index are, whatever underscores the hashes hold.  Rows that such events
put carry the identifiers of the events, and so share an identifier exactly if the events share hash
and index. -/
theorem dataId_faithful {item other : Block.Item} {hash otherHash : String}
    (h : item.transactionHash = .text hash) (hother : other.transactionHash = .text otherHash) :
    ((∃ id, dataId item = .ok id) ↔ item.event.index.natAbs < 10 ^ Text.Numeral.digitLimit) ∧
    (∀ {id otherId : String}, dataId item = .ok id → dataId other = .ok otherId →
      (id = otherId ↔ hash = otherHash ∧ item.event.index = other.event.index)) ∧
    ∀ {mapping otherMapping : Mapping} {output otherOutput : Output},
      output.IsRowFor mapping item → otherOutput.IsRowFor otherMapping other →
      ∃ id otherId, output.dataId? = some (.text id) ∧
        otherOutput.dataId? = some (.text otherId) ∧
        (id = otherId ↔ hash = otherHash ∧ item.event.index = other.event.index) := by
  refine ⟨exists_dataId_iff h, dataId_eq_iff h hother, ?_⟩
  intro mapping otherMapping output otherOutput hrow hotherRow
  obtain ⟨id, hid, hcolumn⟩ := dataId?_of_isRowFor hrow
  obtain ⟨otherId, hotherId, hotherColumn⟩ := dataId?_of_isRowFor hotherRow
  exact ⟨id, otherId, hcolumn, hotherColumn, dataId_eq_iff h hother hid hotherId⟩

/-- The item of an event that reads as a spot entry and as a checkpoint. -/
private def pricedItem (hash : String) (index : Int) : Block.Item where
  event := ⟨.text "0xC0", [],
    [.text "0x1", .text "0x41", .text "0x42", .text "0x7", .text "0x43", .text "0x5"], index⟩
  transactionHash := .text hash
  senderAddress := .null

/-- A spot entry and a checkpoint in two transactions: the hash of the first is that of the second
with an underscore and a digit behind it, and the rows are told apart all the same. -/
theorem dataId_faithful_underscores :
    (pricedItem "0xT_1" 2).transactionHash = .text "0xT_1" ∧
    (pricedItem "0xT" 12).transactionHash = .text "0xT" ∧
    ∃ entry aggregate : Output, entry.IsRowFor .spotEntry (pricedItem "0xT_1" 2) ∧
      aggregate.IsRowFor .checkpoint (pricedItem "0xT" 12) ∧
      ∃ id otherId, entry.dataId? = some (.text id) ∧ aggregate.dataId? = some (.text otherId) ∧
        id ≠ otherId := by
  have hhash : (pricedItem "0xT_1" 2).transactionHash = .text "0xT_1" := rfl
  have hother : (pricedItem "0xT" 12).transactionHash = .text "0xT" := rfl
  obtain ⟨entry, hentry⟩ : ∃ columns, Mapping.spotEntry.outputs ⟨7, .null, .null⟩
      (pricedItem "0xT_1" 2) ⟨"net", ⟨none, none⟩⟩ = .ok [.row columns] := ⟨_, rfl⟩
  obtain ⟨aggregate, haggregate⟩ : ∃ columns, Mapping.checkpoint.outputs ⟨7, .null, .null⟩
      (pricedItem "0xT" 12) ⟨"net", ⟨none, none⟩⟩ = .ok [.row columns] := ⟨_, rfl⟩
  have hentryRow : (Output.row entry).IsRowFor .spotEntry (pricedItem "0xT_1" 2) :=
    ⟨⟨_, _, _, hentry, List.mem_singleton_self _⟩, .spotEntry entry⟩
  have haggregateRow : (Output.row aggregate).IsRowFor .checkpoint (pricedItem "0xT" 12) :=
    ⟨⟨_, _, _, haggregate, List.mem_singleton_self _⟩, .checkpoint aggregate⟩
  obtain ⟨_, _, hrows⟩ := dataId_faithful hhash hother
  obtain ⟨id, otherId, hid, hotherId, hiff⟩ := hrows hentryRow haggregateRow
  refine ⟨hhash, hother, _, _, hentryRow, haggregateRow, id, otherId, hid, hotherId, ?_⟩
  rw [ne_eq, hiff]
  decide

/-- The index of an event may have too many digits for an identifier, which the event then lacks,
although it shares hash and index with itself. -/
theorem dataId_refused_long_index :
    dataId (pricedItem "0xT" (10 ^ Text.Numeral.digitLimit)) = .error (.value .unwritable) ∧
      ¬ ∃ id, dataId (pricedItem "0xT" (10 ^ Text.Numeral.digitLimit)) = .ok id := by
  have hrefused : dataId (pricedItem "0xT" (10 ^ Text.Numeral.digitLimit))
      = .error (.value .unwritable) :=
    dataId_of_long rfl (Text.Numeral.isWritable_pow (Nat.le_refl _))
  refine ⟨hrefused, ?_⟩
  rintro ⟨id, hid⟩
  rw [hrefused] at hid
  cases hid

end Record

end OracleIndexer
