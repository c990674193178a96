import Mathlib.Data.List.Infix
import OracleIndexer.Proofs.Feed.CanonicalId
set_option autoImplicit false

/-!
# What the decoder looks at

A decoded message is determined by the characters of its count and of its ids: the sizes of the
records say where the ids stand, and what stands between them or behind the last record may be
anything.  All records have to be there as a whole.  A message that is cut within them is refused as
too short, and what the refusal asks for never reaches beyond the end of the last record.
-/

namespace OracleIndexer.Feed.Batch

open Text (slice)

/-- The size of the record of a decoded id, by the characters behind its marker. -/
def sizeOfEntry (table : Option SizeTable) (entry : String) : Outcome Nat :=
  sizeOfId table (entry.toList.drop 2)

@[simp] theorem sizeOfEntry_entryOf (table : Option SizeTable) (text : List Char) :
    sizeOfEntry table (entryOf text) = sizeOfId table text := by
  rw [sizeOfEntry, entryOf, String.toList_ofList]
  rfl

/-- Where the records of a message end. -/
def recordsEnd (sizes : List Nat) : Nat := countWidth + sizes.sum

/-- The characters where the id of a record stands in a message, by the sizes of the records. -/
def idAt (sizes : List Nat) (i : Nat) (stream : List Char) : List Char :=
  slice (countWidth + (sizes.take i).sum) Id.width stream

/-- Messages with the same count and the same ids at the same places. -/
structure AgreeOnIds (sizes : List Nat) (stream other : List Char) : Prop where
  count : other.take countWidth = stream.take countWidth
  ids : ∀ i < sizes.length, idAt sizes i other = idAt sizes i stream

/-! ## Walks by their places -/

/-- Behind the first record the places count from its end. -/
theorem slice_sum_take_succ (size : Nat) (sizes : List Nat) (i count : Nat) (text : List Char) :
    slice ((size :: sizes).take (i + 1)).sum count text
      = slice (sizes.take i).sum count (text.drop size) := by
  rw [List.take_succ_cons, List.sum_cons, slice, slice, List.drop_drop]

/-- A front that is long enough starts with the same characters. -/
theorem take_eq_of_prefix {front text : List Char} {n : Nat} (h : front <+: text)
    (hlong : n ≤ front.length) : front.take n = text.take n := by
  obtain ⟨back, rfl⟩ := h
  exact (List.take_append_of_le_length hlong).symm

namespace Walk

variable {table : Option SizeTable} {rest : List Char} {texts : List (List Char)}
  {sizes : List Nat}

/-- The ids of a walk stand where the sizes before them end. -/
theorem getElem?_eq (h : Walk table rest texts sizes) :
    ∀ i < sizes.length, texts[i]? = some (slice (sizes.take i).sum Id.width rest) := by
  induction h with
  | nil =>
    intro i hi
    contradiction
  | @cons rest size texts sizes sized fits more ih =>
    intro i hi
    cases i with
    | zero => rfl
    | succ i =>
      rw [slice_sum_take_succ, List.getElem?_cons_succ]
      exact ih i (Nat.lt_of_succ_lt_succ hi)

/-- A walk leads over any other text that is long enough and has the same ids at its places. -/
theorem of_agree {other : List Char} (h : Walk table rest texts sizes)
    (hlong : sizes.sum ≤ other.length)
    (hagree : ∀ i < sizes.length,
      slice (sizes.take i).sum Id.width other = slice (sizes.take i).sum Id.width rest) :
    Walk table other texts sizes := by
  induction h generalizing other with
  | nil => exact .nil
  | @cons rest size texts sizes sized fits more ih =>
    have hfirst : other.take Id.width = rest.take Id.width := hagree 0 (Nat.succ_pos _)
    rw [List.sum_cons] at hlong
    have hmore : Walk table (other.drop size) texts sizes := by
      apply ih
      · rw [List.length_drop]
        omega
      · intro i hi
        rw [← slice_sum_take_succ, ← slice_sum_take_succ]
        exact hagree (i + 1) (Nat.succ_lt_succ hi)
    rw [← hfirst] at sized ⊢
    exact .cons sized (by omega) hmore

/-- A front of a text that ends within its records is refused, and what is asked for lies within
these records. -/
theorem records_of_prefix {front : List Char} (h : Walk table rest texts sizes) (done : Nat)
    (hfront : front <+: rest) (hshort : front.length < sizes.sum) :
    ∃ needed, records table texts.length done front
        = .error (.codec (.truncated needed (done + front.length))) ∧
      done + front.length < needed ∧ needed ≤ done + sizes.sum := by
  induction h generalizing done front with
  | nil => contradiction
  | @cons rest size texts sizes sized fits more ih =>
    have hwidth := width_le_of_sizeOfId sized
    rw [List.sum_cons] at hshort ⊢
    rw [List.length_cons, records]
    by_cases hid : front.length < Id.width
    · -- cut within the id
      rw [record_of_short_id hid]
      exact ⟨_, rfl, by omega, by omega⟩
    · rw [← take_eq_of_prefix hfront (by omega : Id.width ≤ front.length)] at sized
      by_cases hend : front.length < size
      · -- cut behind the id
        rw [record_of_short (by omega) sized hend]
        exact ⟨_, rfl, by omega, by omega⟩
      · -- cut in a later record
        have hlength : (front.drop size).length = front.length - size := List.length_drop
        obtain ⟨needed, hrefused, hlt, hle⟩ :=
          ih (done + size) (hfront.drop size) (by omega)
        have havailable : done + size + (front.drop size).length = done + front.length := by omega
        rw [havailable] at hrefused hlt
        refine ⟨needed, ?_, hlt, by omega⟩
        rw [record_of_fits sized (by omega), Outcome.ok_bind]
        dsimp only
        rw [hrefused]
        rfl

end Walk

/-! ## Messages -/

/-- Of a message that decodes to ids, let these give the sizes of its records.  The message reaches
to the end of the records.  Any other message that does and has the same count and ids at the
same places decodes to the same ids.  Any front of the message that does not is refused as too
short, and what it is told to miss ends within the records. -/
theorem decode_depends_on_ids {format : Format} {stream : List Char} {batch : Batch}
    (h : decode format stream = .ok batch) :
    ∃ sizes : List Nat,
      List.Forall₂ (fun entry size => sizeOfEntry format.sizeTable entry = .ok size)
        batch.ids sizes ∧
      (∀ i < sizes.length, batch.ids[i]? = some (entryOf (idAt sizes i stream))) ∧
      recordsEnd sizes ≤ stream.length ∧
      (∀ other, recordsEnd sizes ≤ other.length → AgreeOnIds sizes stream other →
        ∃ same, decode format other = .ok same ∧ same.ids = batch.ids) ∧
      ∀ front, front <+: stream → front.length < recordsEnd sizes →
        ∃ needed, decode format front = .error (.codec (.truncated needed front.length)) ∧
          front.length < needed ∧ needed ≤ recordsEnd sizes := by
  obtain ⟨count, texts, sizes, hlong, hcount, hwalk, hlength, rfl⟩ := decode_eq_ok_iff.mp h
  have hplace : ∀ (i : Nat) (text : List Char),
      idAt sizes i text = slice (sizes.take i).sum Id.width (text.drop countWidth) := by
    intro i text
    rw [idAt, slice, slice, List.drop_drop]
  have hfits := hwalk.sum_le
  rw [List.length_drop] at hfits
  refine ⟨sizes, ?_, ?_, by rw [recordsEnd]; omega, ?_, ?_⟩
  · rw [List.forall₂_map_left_iff]
    refine hwalk.sized.imp ?_
    intro text size hsized
    exact (sizeOfEntry_entryOf _ text).trans hsized.2
  · intro i hi
    rw [List.getElem?_map, hwalk.getElem?_eq i hi, hplace]
    rfl
  · intro other hother hagree
    rw [recordsEnd] at hother
    have hsame : Walk format.sizeTable (other.drop countWidth) texts sizes := by
      apply hwalk.of_agree
      · rw [List.length_drop]
        omega
      · intro i hi
        rw [← hplace, ← hplace]
        exact hagree.ids i hi
    rw [← hagree.count] at hcount
    exact ⟨_, decode_eq_ok_iff.mpr ⟨count, texts, sizes, by omega, hcount, hsame, hlength, rfl⟩,
      rfl⟩
  · intro front hfront hshort
    rw [recordsEnd] at hshort ⊢
    by_cases hhead : front.length < countWidth
    · exact ⟨countWidth, decode_of_short hhead, hhead, Nat.le_add_right _ _⟩
    · have hsame := take_eq_of_prefix hfront (by omega : countWidth ≤ front.length)
      have hdrop : (front.drop countWidth).length = front.length - countWidth := List.length_drop
      obtain ⟨needed, hrefused, hlt, hle⟩ :=
        hwalk.records_of_prefix countWidth (hfront.drop countWidth) (by omega)
      have havailable : countWidth + (front.drop countWidth).length = front.length := by omega
      rw [havailable] at hrefused hlt
      refine ⟨needed, ?_, hlt, hle⟩
      rw [decode_of_long (by omega), hsame, hcount, Outcome.bind_ok, ← hlength, hrefused,
        Outcome.map_error]

/-- The digits of an id of the second kind. -/
private def secondKind : List Char := List.replicate 7 '0' ++ '1' :: List.replicate 56 '0'

/-- A message of two records, one of each kind, and a tail. -/
private def bothKinds : List Char :=
  ['0', '0', '0', '2'] ++ (List.replicate 214 '0' ++ (secondKind ++ List.replicate 408 'e'))

set_option maxRecDepth 4000 in
private theorem decode_bothKinds :
    decode ⟨some .assetClassGated, some .decimal⟩ bothKinds
      = .ok ⟨[entryOf (List.replicate 64 '0'), entryOf secondKind], 2, 2⟩ := rfl

set_option maxRecDepth 4000 in
/-- The records of both kinds end behind 688 characters.  Any message as long with the same count
and ids decodes alike, and one that is cut before is refused. -/
theorem decode_depends_on_ids_both :
    decode ⟨some .assetClassGated, some .decimal⟩ bothKinds
      = .ok ⟨[entryOf (List.replicate 64 '0'), entryOf secondKind], 2, 2⟩ ∧
    (∀ other, 688 ≤ other.length → AgreeOnIds [214, 470] bothKinds other →
      ∃ same, decode ⟨some .assetClassGated, some .decimal⟩ other = .ok same ∧
        same.ids = [entryOf (List.replicate 64 '0'), entryOf secondKind]) ∧
    ∀ front, front <+: bothKinds → front.length < 688 →
      ∃ needed, decode ⟨some .assetClassGated, some .decimal⟩ front
          = .error (.codec (.truncated needed front.length)) ∧
        front.length < needed ∧ needed ≤ 688 := by
  obtain ⟨sizes, hsizes, _, _, hsame, hcut⟩ := decode_depends_on_ids decode_bothKinds
  have hfirst : sizeOfEntry (some .assetClassGated) (entryOf (List.replicate 64 '0'))
      = .ok 214 := rfl
  have hsecond : sizeOfEntry (some .assetClassGated) (entryOf secondKind) = .ok 470 := rfl
  obtain rfl : sizes = [214, 470] :=
    List.right_unique_forall₂' (fun _ _ _ hleft hright => Except.ok.inj (hleft.symm.trans hright))
      hsizes (.cons hfirst (.cons hsecond .nil))
  exact ⟨decode_bothKinds, hsame, hcut⟩

end OracleIndexer.Feed.Batch
