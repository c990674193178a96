import Mathlib.Data.List.Forall2
import OracleIndexer.Proofs.Feed.Decoding
set_option autoImplicit false

/-!
# Walking over records

How a message is read whatever its characters are.  The sixty-four characters of an id decide how
far the decoder steps; nothing else of a record is looked at.  A walk lists the ids and sizes of the
records that a text starts with, and decoding succeeds exactly if there is a walk over as many
records as were counted.
-/

namespace OracleIndexer.Feed

open Wire (take_of_le take_of_lt)

namespace SizeTable

/-- No record is shorter than its id. -/
theorem width_le_of_sizeOfMainType? {mainType : Int} {size : Nat}
    (h : sizeOfMainType? mainType = some size) : Id.width ≤ size := by
  unfold sizeOfMainType? at h
  split at h
  · obtain rfl := Option.some.inj h
    decide
  · split at h
    · obtain rfl := Option.some.inj h
      decide
    · contradiction

theorem width_le_of_size {table : SizeTable} {assetClass feedType : Int} {size : Nat}
    (h : table.size assetClass feedType = .ok size) : Id.width ≤ size := by
  unfold SizeTable.size at h
  split at h
  · split at h
    · rename_i hsize
      obtain rfl := Except.ok.inj h
      exact width_le_of_sizeOfMainType? hsize
    · contradiction
  · contradiction

end SizeTable

namespace Batch

/-! ## One record -/

/-- The size that the characters of an id give to the record which they start. -/
def sizeOfId (table : Option SizeTable) (text : List Char) : Outcome Nat := do
  let id ← (Id.ofHex (String.ofList text)).mapError .codec
  sizeOf table id.assetClass id.feedType

theorem width_le_of_sizeOfId {table : Option SizeTable} {text : List Char} {size : Nat}
    (h : sizeOfId table text = .ok size) : Id.width ≤ size := by
  obtain ⟨id, _, hsize⟩ := Outcome.bind_eq_ok_iff.mp h
  cases table with
  | none => contradiction
  | some table => exact SizeTable.width_le_of_size (Outcome.mapError_eq_ok_iff.mp hsize)

/-- Behind a whole id the step over a record depends on the size that the id gives. -/
theorem record_of_width_le {table : Option SizeTable} {done : Nat} {rest : List Char}
    (h : Id.width ≤ rest.length) :
    record table done rest
      = (sizeOfId table (rest.take Id.width)).bind fun size =>
          ((take done size rest).mapError .codec).bind fun _ =>
            .ok (rest.take Id.width, size) := by
  rw [record, take_of_le h, Outcome.mapError_ok, Outcome.ok_bind, sizeOfId]
  cases Id.ofHex (String.ofList (rest.take Id.width)) with
  | error fault => rfl
  | ok id => rfl

theorem record_of_short_id {table : Option SizeTable} {done : Nat} {rest : List Char}
    (h : rest.length < Id.width) :
    record table done rest
      = .error (.codec (.truncated (done + Id.width) (done + rest.length))) := by
  rw [record, take_of_lt h]
  rfl

theorem record_of_fits {table : Option SizeTable} {done size : Nat} {rest : List Char}
    (hsize : sizeOfId table (rest.take Id.width) = .ok size) (hfits : size ≤ rest.length) :
    record table done rest = .ok (rest.take Id.width, size) := by
  have hid : Id.width ≤ rest.length := Nat.le_trans (width_le_of_sizeOfId hsize) hfits
  rw [record_of_width_le hid, hsize, Outcome.bind_ok, take_of_le hfits]
  rfl

theorem record_of_short {table : Option SizeTable} {done size : Nat} {rest : List Char}
    (hid : Id.width ≤ rest.length) (hsize : sizeOfId table (rest.take Id.width) = .ok size)
    (hshort : rest.length < size) :
    record table done rest = .error (.codec (.truncated (done + size) (done + rest.length))) := by
  rw [record_of_width_le hid, hsize, Outcome.bind_ok, take_of_lt hshort]
  rfl

theorem record_of_refused_id {table : Option SizeTable} {done : Nat} {rest : List Char}
    {fault : Fault} (hid : Id.width ≤ rest.length)
    (h : sizeOfId table (rest.take Id.width) = .error fault) :
    record table done rest = .error fault := by
  rw [record_of_width_le hid, h, Outcome.bind_error]

/-- The step over a record gives its id and size, and succeeds exactly if the record is there. -/
theorem record_eq_ok_iff {table : Option SizeTable} {done size : Nat} {rest text : List Char} :
    record table done rest = .ok (text, size) ↔
      sizeOfId table (rest.take Id.width) = .ok size ∧ size ≤ rest.length ∧
        text = rest.take Id.width := by
  constructor
  · intro h
    by_cases hid : Id.width ≤ rest.length
    · rw [record_of_width_le hid] at h
      cases hsize : sizeOfId table (rest.take Id.width) with
      | error fault =>
        rw [hsize] at h
        contradiction
      | ok found =>
        rw [hsize, Outcome.bind_ok] at h
        by_cases hfits : found ≤ rest.length
        · rw [take_of_le hfits] at h
          obtain ⟨rfl, rfl⟩ := Prod.mk.inj (Except.ok.inj h)
          exact ⟨rfl, hfits, rfl⟩
        · rw [take_of_lt (by omega)] at h
          contradiction
    · rw [record_of_short_id (by omega)] at h
      contradiction
  · rintro ⟨hsize, hfits, rfl⟩
    exact record_of_fits hsize hfits

/-! ## Walks -/

/-- The records that a text starts with, as the characters of their ids and their sizes. -/
inductive Walk (table : Option SizeTable) : List Char → List (List Char) → List Nat → Prop
  | nil {rest : List Char} : Walk table rest [] []
  | cons {rest : List Char} {size : Nat} {texts : List (List Char)} {sizes : List Nat}
      (sized : sizeOfId table (rest.take Id.width) = .ok size) (fits : size ≤ rest.length)
      (more : Walk table (rest.drop size) texts sizes) :
    Walk table rest (rest.take Id.width :: texts) (size :: sizes)

namespace Walk

variable {table : Option SizeTable} {rest : List Char} {texts : List (List Char)}
  {sizes : List Nat}

theorem sum_le (h : Walk table rest texts sizes) : sizes.sum ≤ rest.length := by
  induction h with
  | nil => simp
  | cons sized fits more ih =>
    rw [List.length_drop] at ih
    rw [List.sum_cons]
    omega

/-- Each id is whole and gives its record the size. -/
theorem sized (h : Walk table rest texts sizes) :
    List.Forall₂ (fun text size => text.length = Id.width ∧ sizeOfId table text = .ok size)
      texts sizes := by
  induction h with
  | nil => exact .nil
  | cons sized fits more ih =>
    have hid := Nat.le_trans (width_le_of_sizeOfId sized) fits
    exact .cons ⟨List.length_take_of_le hid, sized⟩ ih

theorem take (h : Walk table rest texts sizes) (n : Nat) :
    Walk table rest (texts.take n) (sizes.take n) := by
  induction h generalizing n with
  | nil =>
    rw [List.take_nil, List.take_nil]
    exact .nil
  | cons sized fits more ih =>
    cases n with
    | zero => exact .nil
    | succ n => exact .cons sized fits (ih n)

end Walk

/-- The records read are those of a walk. -/
theorem records_eq_ok_iff {table : Option SizeTable} {n done : Nat} {rest after : List Char}
    {texts : List (List Char)} :
    records table n done rest = .ok (texts, after) ↔
      ∃ sizes, Walk table rest texts sizes ∧ texts.length = n ∧ after = rest.drop sizes.sum := by
  -- where a record stands matters to the faults only, so the induction is for any place
  induction n generalizing done rest texts after with
  | zero =>
    constructor
    · intro h
      obtain ⟨rfl, rfl⟩ := Prod.mk.inj (Except.ok.inj h)
      exact ⟨[], .nil, rfl, rfl⟩
    · rintro ⟨sizes, hwalk, hlength, rfl⟩
      cases hwalk with
      | nil => rfl
      | cons => contradiction
  | succ n ih =>
    rw [records, Outcome.bind_eq_ok_iff]
    constructor
    · rintro ⟨⟨text, size⟩, hrecord, hmore⟩
      obtain ⟨⟨more, last⟩, hrecords, hpair⟩ := Outcome.bind_eq_ok_iff.mp hmore
      obtain ⟨rfl, rfl⟩ := Prod.mk.inj (Except.ok.inj hpair)
      obtain ⟨hsize, hfits, rfl⟩ := record_eq_ok_iff.mp hrecord
      obtain ⟨sizes, hwalk, hlength, hlast⟩ := ih.mp hrecords
      refine ⟨size :: sizes, .cons hsize hfits hwalk, congrArg (· + 1) hlength, ?_⟩
      rw [hlast, List.drop_drop, List.sum_cons]
    · rintro ⟨sizes, hwalk, hlength, rfl⟩
      cases hwalk with
      | nil => contradiction
      | @cons _ size more sizes sized fits walk =>
        have hmore : records table n (done + size) (rest.drop size)
            = .ok (more, (rest.drop size).drop sizes.sum) :=
          ih.mpr ⟨sizes, walk, Nat.succ.inj hlength, rfl⟩
        refine ⟨_, record_of_fits sized fits, Outcome.bind_eq_ok_iff.mpr ⟨_, hmore, ?_⟩⟩
        rw [List.drop_drop, List.sum_cons]
        rfl

/-! ## Messages -/

theorem decode_of_short {format : Format} {stream : List Char} (h : stream.length < countWidth) :
    decode format stream = .error (.codec (.truncated countWidth stream.length)) := by
  rw [decode, take_of_lt h, Nat.zero_add, Nat.zero_add]
  rfl

/-- Behind the characters of a count the records follow. -/
theorem decode_of_long {format : Format} {stream : List Char} (h : countWidth ≤ stream.length) :
    decode format stream
      = (readCount format.countRadix (stream.take countWidth)).bind fun count =>
          (records format.sizeTable count.toNat countWidth (stream.drop countWidth)).map
            fun read => ⟨read.1.map fun text => String.ofList ('0' :: 'x' :: text), count,
              read.2.length⟩ := by
  rw [decode, take_of_le h, Outcome.mapError_ok, Outcome.ok_bind]
  cases readCount format.countRadix (stream.take countWidth) with
  | error fault => rfl
  | ok count =>
    rw [Outcome.ok_bind, Outcome.bind_ok]
    cases records format.sizeTable count.toNat countWidth (stream.drop countWidth) <;> rfl

/-- Decoding succeeds exactly if there is a walk over the records that were counted. -/
theorem decode_eq_ok_iff {format : Format} {stream : List Char} {batch : Batch} :
    decode format stream = .ok batch ↔
      ∃ (count : Int) (texts : List (List Char)) (sizes : List Nat),
        countWidth ≤ stream.length ∧
        readCount format.countRadix (stream.take countWidth) = .ok count ∧
        Walk format.sizeTable (stream.drop countWidth) texts sizes ∧
        texts.length = count.toNat ∧
        batch = ⟨texts.map fun text => String.ofList ('0' :: 'x' :: text), count,
          stream.length - (countWidth + sizes.sum)⟩ := by
  by_cases hlong : countWidth ≤ stream.length
  · have hafter : ∀ sizes : List Nat,
        ((stream.drop countWidth).drop sizes.sum).length
          = stream.length - (countWidth + sizes.sum) := by
      intro sizes
      rw [List.drop_drop, List.length_drop]
    rw [decode_of_long hlong]
    constructor
    · intro h
      obtain ⟨count, hcount, h⟩ := Outcome.bind_eq_ok_iff.mp h
      obtain ⟨⟨texts, after⟩, hrecords, rfl⟩ := Outcome.map_eq_ok_iff.mp h
      obtain ⟨sizes, hwalk, hlength, rfl⟩ := records_eq_ok_iff.mp hrecords
      exact ⟨count, texts, sizes, hlong, hcount, hwalk, hlength, by rw [hafter]⟩
    · rintro ⟨count, texts, sizes, _, hcount, hwalk, hlength, rfl⟩
      have hrecords : records format.sizeTable count.toNat countWidth (stream.drop countWidth)
          = .ok (texts, (stream.drop countWidth).drop sizes.sum) :=
        records_eq_ok_iff.mpr ⟨sizes, hwalk, hlength, rfl⟩
      rw [hcount, Outcome.bind_ok, hrecords, Outcome.map_ok, hafter]
  · rw [decode_of_short (by omega)]
    constructor
    · intro h
      contradiction
    · rintro ⟨_, _, _, hlong', _⟩
      exact absurd hlong' hlong

end Batch

end OracleIndexer.Feed
