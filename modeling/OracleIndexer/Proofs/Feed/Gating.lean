import OracleIndexer.Proofs.Feed.Walk
set_option autoImplicit false

/-!
# Gated decoding

The gated size table accepts part of what the other one accepts, and reads it alike.  A message that
the other table decodes is refused for the first of its ids that has an asset class, if there is
one.
-/

namespace OracleIndexer.Feed

/-- The fields of a decoded id, by the characters behind its marker. -/
def fieldsOf (entry : String) : Except CodecFault Id :=
  Id.ofHex (String.ofList (entry.toList.drop 2))

namespace Batch

/-- The first of some ids that the gate stops. -/
def firstStopped? (ids : List Id) : Option Id := ids.find? fun id => id.assetClass != 0

/-! ## Sizes -/

/-- Behind the gate the table looks at the main type too. -/
theorem sizeOf_gated {assetClass : Int} (feedType : Int)
    (h : Text.Numeral.isWritable assetClass = true) :
    sizeOf (some .assetClassGated) assetClass feedType
      = if assetClass = 0 then sizeOf (some .mainTypeOnly) assetClass feedType
        else .error (.codec (.unsupportedKind assetClass feedType)) := by
  by_cases hclass : assetClass = 0
  · rw [if_pos hclass, hclass]
    rfl
  · have hstopped : SizeTable.assetClassGated.admits assetClass = false := by
      simpa [SizeTable.admits] using hclass
    rw [if_neg hclass, Wire.sizeOf_eq feedType h, SizeTable.size, hstopped]
    rfl

theorem sizeOfId_of_read {table : Option SizeTable} {text : List Char} {id : Id}
    (h : Id.ofHex (String.ofList text) = .ok id) :
    sizeOfId table text = sizeOf table id.assetClass id.feedType := by
  rw [sizeOfId, h]
  rfl

/-- What the gate lets through keeps its size. -/
theorem sizeOfId_mainTypeOnly {text : List Char} {size : Nat}
    (h : sizeOfId (some .assetClassGated) text = .ok size) :
    sizeOfId (some .mainTypeOnly) text = .ok size := by
  obtain ⟨id, hid, hsize⟩ := Outcome.bind_eq_ok_iff.mp h
  have hread := Outcome.mapError_eq_ok_iff.mp hid
  rw [sizeOf_gated id.feedType (Id.isWritable_assetClass hread)] at hsize
  split at hsize
  · rw [sizeOfId_of_read hread, hsize]
  · contradiction

/-! ## Walks -/

theorem Walk.ungated {rest : List Char} {texts : List (List Char)} {sizes : List Nat}
    (h : Walk (some .assetClassGated) rest texts sizes) :
    Walk (some .mainTypeOnly) rest texts sizes := by
  induction h with
  | nil => exact .nil
  | cons sized fits more ih => exact .cons (sizeOfId_mainTypeOnly sized) fits ih

/-- Of the records of a walk the gated table reads all, or it refuses the first that the gate
stops. -/
theorem Walk.records_gated {rest : List Char} {texts : List (List Char)} {sizes : List Nat}
    (h : Walk (some .mainTypeOnly) rest texts sizes) :
    ∃ ids : List Id,
      List.Forall₂ (fun text id => Id.ofHex (String.ofList text) = .ok id) texts ids ∧
      ∀ done, records (some .assetClassGated) texts.length done rest
        = match firstStopped? ids with
          | none => .ok (texts, rest.drop sizes.sum)
          | some id => .error (.codec (.unsupportedKind id.assetClass id.feedType)) := by
  induction h with
  | nil => exact ⟨[], .nil, fun _ => rfl⟩
  | @cons rest size texts sizes sized fits more ih =>
    obtain ⟨ids, hids, hrecords⟩ := ih
    obtain ⟨id, hid, hsize⟩ := Outcome.bind_eq_ok_iff.mp sized
    have hread := Outcome.mapError_eq_ok_iff.mp hid
    have hnamed := Id.isWritable_assetClass hread
    refine ⟨id :: ids, .cons hread hids, ?_⟩
    intro done
    rw [List.length_cons, records]
    by_cases hclass : id.assetClass = 0
    · -- the gate lets this record through
      have hgated : sizeOfId (some .assetClassGated) (rest.take Id.width) = .ok size := by
        rw [sizeOfId_of_read hread, sizeOf_gated _ hnamed, if_pos hclass]
        exact hsize
      have hfirst : firstStopped? (id :: ids) = firstStopped? ids := by
        rw [firstStopped?, List.find?_cons, hclass]
        rfl
      rw [record_of_fits hgated fits, Outcome.ok_bind, hfirst]
      dsimp only
      rw [hrecords]
      cases firstStopped? ids with
      | some stopped => rfl
      | none =>
        rw [List.sum_cons, ← List.drop_drop]
        rfl
    · -- it stops this record
      have hgated : sizeOfId (some .assetClassGated) (rest.take Id.width)
          = .error (.codec (.unsupportedKind id.assetClass id.feedType)) := by
        rw [sizeOfId_of_read hread, sizeOf_gated _ hnamed, if_neg hclass]
      have hfirst : firstStopped? (id :: ids) = some id := by
        rw [firstStopped?, List.find?_cons_of_pos (by simpa using hclass)]
      have hwidth : Id.width ≤ rest.length := Nat.le_trans (width_le_of_sizeOfId sized) fits
      rw [record_of_refused_id hwidth hgated, hfirst]
      rfl

/-! ## Messages -/

theorem decode_mainTypeOnly_of_gated {radix : Option CountRadix} {stream : List Char}
    {batch : Batch} (h : decode ⟨some .assetClassGated, radix⟩ stream = .ok batch) :
    decode ⟨some .mainTypeOnly, radix⟩ stream = .ok batch := by
  obtain ⟨count, texts, sizes, hlong, hcount, hwalk, hlength, rfl⟩ := decode_eq_ok_iff.mp h
  exact decode_eq_ok_iff.mpr ⟨count, texts, sizes, hlong, hcount, hwalk.ungated, hlength, rfl⟩

/-- What the gated table decodes, the other one decodes to the same.  What the other one decodes,
the gated table decodes to the same if all ids have the asset class zero, and otherwise it refuses
the first one that has not.  What the other one refuses, the gated table refuses too. -/
theorem decode_gated (radix : Option CountRadix) (stream : List Char) :
    (∀ batch, decode ⟨some .assetClassGated, radix⟩ stream = .ok batch →
      decode ⟨some .mainTypeOnly, radix⟩ stream = .ok batch) ∧
    (∀ batch, decode ⟨some .mainTypeOnly, radix⟩ stream = .ok batch →
      ∃ ids : List Id, List.Forall₂ (fun entry id => fieldsOf entry = .ok id) batch.ids ids ∧
        decode ⟨some .assetClassGated, radix⟩ stream
          = match firstStopped? ids with
            | none => .ok batch
            | some id => .error (.codec (.unsupportedKind id.assetClass id.feedType))) ∧
    ∀ fault, decode ⟨some .mainTypeOnly, radix⟩ stream = .error fault →
      ∃ other, decode ⟨some .assetClassGated, radix⟩ stream = .error other := by
  refine ⟨fun _ => decode_mainTypeOnly_of_gated, ?_, ?_⟩
  · intro batch h
    obtain ⟨count, texts, sizes, hlong, hcount, hwalk, hlength, rfl⟩ := decode_eq_ok_iff.mp h
    obtain ⟨ids, hids, hrecords⟩ := hwalk.records_gated
    refine ⟨ids, ?_, ?_⟩
    · rw [List.forall₂_map_left_iff]
      refine hids.imp ?_
      intro text id hread
      rw [fieldsOf, String.toList_ofList]
      exact hread
    · rw [decode_of_long hlong, hcount, Outcome.bind_ok, ← hlength, hrecords]
      cases firstStopped? ids with
      | some stopped => rfl
      | none => rw [Outcome.map_ok, List.drop_drop, List.length_drop]
  · intro fault h
    cases hgated : decode ⟨some .assetClassGated, radix⟩ stream with
    | error other => exact ⟨other, rfl⟩
    | ok batch =>
      rw [decode_mainTypeOnly_of_gated hgated] at h
      contradiction

/-- The digits of an id with an asset class. -/
private def classedId : List Char := List.replicate 5 '0' ++ '1' :: List.replicate 58 '0'

/-- A message whose second record has an asset class. -/
private def secondClassed : List Char :=
  ['0', '0', '0', '2'] ++ (List.replicate 214 '0' ++ (classedId ++ List.replicate 150 '0'))

set_option maxRecDepth 4000 in
private theorem decode_secondClassed :
    decode ⟨some .mainTypeOnly, some .decimal⟩ secondClassed
      = .ok ⟨[String.ofList ('0' :: 'x' :: List.replicate 64 '0'),
          String.ofList ('0' :: 'x' :: classedId)], 2, 0⟩ := rfl

set_option maxRecDepth 4000 in
/-- The gate stops the second record by its asset class. -/
theorem decode_gated_second :
    decode ⟨some .assetClassGated, some .decimal⟩ secondClassed
      = .error (.codec (.unsupportedKind 1 0)) := by
  obtain ⟨_, hread, _⟩ := decode_gated (some .decimal) secondClassed
  obtain ⟨ids, hids, hgated⟩ := hread _ decode_secondClassed
  have hfirst : fieldsOf (String.ofList ('0' :: 'x' :: List.replicate 64 '0'))
      = .ok ⟨0, 0, 0, 0⟩ := rfl
  have hsecond : fieldsOf (String.ofList ('0' :: 'x' :: classedId)) = .ok ⟨1, 0, 0, 0⟩ := rfl
  obtain rfl : ids = [⟨0, 0, 0, 0⟩, ⟨1, 0, 0, 0⟩] :=
    List.right_unique_forall₂' (fun _ _ _ hleft hright => Except.ok.inj (hleft.symm.trans hright))
      hids (.cons hfirst (.cons hsecond .nil))
  exact hgated

end Batch

end OracleIndexer.Feed
