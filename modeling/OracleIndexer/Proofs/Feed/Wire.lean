import Mathlib.Data.List.Basic
import OracleIndexer.Feed.Batch
import OracleIndexer.Proofs.Feed.IdDigits
set_option autoImplicit false

/-!
# The grammar of feed messages

A feed message of hexadecimal digits is a count of four digits, that many records, and any tail.  A
record says by its digits how long it is: two of them give its kind, and the gated table also wants
four zeros as its asset class.

The decoder is sound and complete for this grammar.  On a message outside of it the decoder reports
the first defect from the left, with the position up to which characters are missed.
-/

namespace OracleIndexer.Feed

open Text (AllHex slice)
open Text.HexWord (value? valueFrom)

/-- The base of a record count. -/
def CountRadix.base : CountRadix → Nat
  | .decimal => 10
  | .hex => 16

namespace Wire

/-! ## The grammar -/

/-- Characters that call for a record of a size: by the kind at the positions six and seven, and in
the gated table also by the asset class at the positions two to five. -/
structure CallsFor (table : SizeTable) (text : List Char) (size : Nat) : Prop where
  kind : (slice 6 2 text = ['0', '0'] ∧ size = 214) ∨ (slice 6 2 text = ['0', '1'] ∧ size = 470)
  gated : table = .assetClassGated → slice 2 4 text = ['0', '0', '0', '0']

/-- A record is as long as it calls for. -/
def IsRecord (table : SizeTable) (text : List Char) : Prop := CallsFor table text text.length

/-- A message of a count, its records and a tail. -/
structure IsMessage (radix : CountRadix) (table : SizeTable) (stream count : List Char)
    (records : List (List Char)) (tail : List Char) : Prop where
  stream_eq : stream = count ++ (records.flatten ++ tail)
  width : count.length = 4
  denotes : valueFrom radix.base 0 count = some records.length
  each : ∀ record ∈ records, IsRecord table record

/-- What is read of a message: the first sixty-four characters of each record, marked, the number of
records, and the length of the tail. -/
def contents (records : List (List Char)) (tail : List Char) : Batch where
  ids := records.map fun record => String.ofList ('0' :: 'x' :: record.take 64)
  count := records.length
  trailing := tail.length

/-! ## Defects -/

/-- What is wrong where a record should start, `before` characters standing before it. -/
inductive Defect (table : SizeTable) (before : Nat) (rest : List Char) : CodecFault → Prop
  /-- the message ends within the id -/
  | noId (short : rest.length < 64) :
    Defect table before rest (.truncated (before + 64) (before + rest.length))
  /-- the digits of the id call for no record -/
  | noSize {assetClass feedType : Nat} (id : 64 ≤ rest.length)
      (unknown : ∀ size, ¬ CallsFor table rest size)
      (hclass : value? (slice 2 4 rest) = some assetClass)
      (htype : value? (slice 6 4 rest) = some feedType) :
    Defect table before rest (.unsupportedKind assetClass feedType)
  /-- the message ends within the record -/
  | noEnd {size : Nat} (id : 64 ≤ rest.length) (calls : CallsFor table rest size)
      (short : rest.length < size) :
    Defect table before rest (.truncated (before + size) (before + rest.length))

/-- The first defect of a message from the left. -/
inductive FirstDefect (radix : CountRadix) (table : SizeTable) (stream : List Char) :
    CodecFault → Prop
  /-- the message ends within the count -/
  | noCount (short : stream.length < 4) :
    FirstDefect radix table stream (.truncated 4 stream.length)
  /-- the count is not decimal where it has to be -/
  | badCount (decimal : radix = .decimal) (long : 4 ≤ stream.length)
      (bad : ∃ c ∈ stream.take 4, Text.isDecimalDigit c = false) :
    FirstDefect radix table stream (.countNotDecimal (String.ofList (stream.take 4)))
  /-- behind some records there are less than were counted, and the next one is bad -/
  | badRecord {count rest : List Char} {records : List (List Char)} {n : Nat}
      {fault : CodecFault} (stream_eq : stream = count ++ (records.flatten ++ rest))
      (width : count.length = 4) (denotes : valueFrom radix.base 0 count = some n)
      (fewer : records.length < n) (each : ∀ record ∈ records, IsRecord table record)
      (defect : Defect table (4 + records.flatten.length) rest fault) :
    FirstDefect radix table stream fault

/-! ## Sizes by digits -/

theorem CallsFor.id_le {table : SizeTable} {text : List Char} {size : Nat}
    (h : CallsFor table text size) : 64 ≤ size := by
  rcases h.kind with ⟨_, rfl⟩ | ⟨_, rfl⟩ <;> decide

/-- What characters call for is decided by the sixty-four of the id. -/
theorem callsFor_take {table : SizeTable} {text : List Char} {size n : Nat} (h : 8 ≤ n) :
    CallsFor table (text.take n) size ↔ CallsFor table text size := by
  constructor
  · rintro ⟨hkind, hgated⟩
    rw [Text.slice_take text (by omega)] at hkind hgated
    exact ⟨hkind, hgated⟩
  · rintro ⟨hkind, hgated⟩
    rw [← Text.slice_take text (by omega : 6 + 2 ≤ n)] at hkind
    rw [← Text.slice_take text (by omega : 2 + 4 ≤ n)] at hgated
    exact ⟨hkind, hgated⟩

/-- The main type is the value of the kind's two digits. -/
theorem mainType_of_digits {text : List Char} {feedType : Nat} (hlength : 10 ≤ text.length)
    (h : AllHex text) (htype : value? (slice 6 4 text) = some feedType) :
    value? (slice 6 2 text) = some (feedType / 256) := by
  obtain ⟨high, hhigh, _⟩ := Text.HexWord.value?_eq_some_of_allHex (h.slice 6 2)
  obtain ⟨low, hlow, hlt⟩ := Text.HexWord.value?_eq_some_of_allHex (h.slice 8 2)
  have hboth := Text.HexWord.value?_append hhigh hlow
  rw [Text.slice_append_slice 6 2 2, htype, Text.length_slice (by omega)] at hboth
  rw [Text.length_slice (by omega)] at hlt
  have hsum := Option.some.inj hboth
  rw [hhigh]
  congr 1
  omega

theorem slice_two_eq {text : List Char} {start : Nat} (h : start + 2 ≤ text.length) :
    ∃ c d, slice start 2 text = [c, d] :=
  List.length_eq_two.mp (Text.length_slice h)

/-- A table gives a record the size that its digits call for. -/
theorem size_of_callsFor {table : SizeTable} {text : List Char} {assetClass feedType size : Nat}
    (hlength : 10 ≤ text.length) (h : AllHex text)
    (hclass : value? (slice 2 4 text) = some assetClass)
    (htype : value? (slice 6 4 text) = some feedType) (hcalls : CallsFor table text size) :
    table.size assetClass feedType = .ok size := by
  have hadmits : table.admits assetClass = true := by
    cases table with
    | mainTypeOnly => rfl
    | assetClassGated =>
      rw [hcalls.gated rfl] at hclass
      obtain rfl : 0 = assetClass := Option.some.inj hclass
      rfl
  have hmain := mainType_of_digits hlength h htype
  rw [SizeTable.size, if_pos hadmits]
  rcases hcalls.kind with ⟨hkind, rfl⟩ | ⟨hkind, rfl⟩
  · rw [hkind] at hmain
    have hzero : 0 = feedType / 256 := Option.some.inj hmain
    have hint : (feedType : Int) / 256 = 0 := by omega
    rw [hint]
    rfl
  · rw [hkind] at hmain
    have hone : 1 = feedType / 256 := Option.some.inj hmain
    have hint : (feedType : Int) / 256 = 1 := by omega
    rw [hint]
    rfl

/-- A table refuses a record whose digits call for none. -/
theorem size_of_not_callsFor {table : SizeTable} {text : List Char} {assetClass feedType : Nat}
    (hlength : 10 ≤ text.length) (h : AllHex text)
    (hclass : value? (slice 2 4 text) = some assetClass)
    (htype : value? (slice 6 4 text) = some feedType)
    (hunknown : ∀ size, ¬ CallsFor table text size) :
    table.size assetClass feedType = .error (.unsupportedKind assetClass feedType) := by
  by_cases hadmits : table.admits assetClass = true
  · have hgated : table = .assetClassGated → slice 2 4 text = ['0', '0', '0', '0'] := by
      rintro rfl
      have hzero : assetClass = 0 := by simpa [SizeTable.admits] using hadmits
      rw [hzero, Text.HexWord.value?_eq_zero_iff, Text.length_slice (by omega)] at hclass
      exact hclass
    have hmain := mainType_of_digits hlength h htype
    obtain ⟨c, d, hkind⟩ := slice_two_eq (by omega : 6 + 2 ≤ text.length)
    rw [hkind] at hmain
    have hnotZero : ¬ feedType / 256 = 0 := by
      intro hzero
      rw [hzero, Text.HexWord.value?_eq_zero_iff, ← hkind] at hmain
      rw [hkind] at hmain
      exact hunknown 214 ⟨.inl ⟨by rw [hkind, hmain]; rfl, rfl⟩, hgated⟩
    have hnotOne : ¬ feedType / 256 = 1 := by
      intro hone
      rw [hone, Text.HexWord.value?_pair_eq_one_iff] at hmain
      obtain ⟨rfl, rfl⟩ := hmain
      exact hunknown 470 ⟨.inr ⟨hkind, rfl⟩, hgated⟩
    have hnone : SizeTable.sizeOfMainType? ((feedType : Int) / 256) = none := by
      rw [SizeTable.sizeOfMainType?, if_neg (by omega), if_neg (by omega)]
    rw [SizeTable.size, if_pos hadmits, hnone]
  · rw [SizeTable.size, if_neg hadmits]

end Wire

end OracleIndexer.Feed
