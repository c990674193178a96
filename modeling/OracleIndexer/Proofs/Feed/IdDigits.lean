import OracleIndexer.Feed.Id
import OracleIndexer.Proofs.Word256
set_option autoImplicit false

/-!
# The digits of a feed id

The four fields of a feed id lie on the borders of its hexadecimal digits: two for the reserved
bits, four for the asset class, four for the feed type, and fifty-four for the pair id.
-/

namespace OracleIndexer

namespace Text

/-- The characters from a position on, a number of them. -/
def slice (start count : Nat) (text : List Char) : List Char := (text.drop start).take count

theorem length_slice {start count : Nat} {text : List Char} (h : start + count ≤ text.length) :
    (slice start count text).length = count := by
  rw [slice, List.length_take, List.length_drop]
  omega

theorem AllHex.slice {text : List Char} (h : AllHex text) (start count : Nat) :
    AllHex (slice start count text) := (h.drop start).take count

/-- A slice lies in any front of the text that is long enough. -/
theorem slice_take {start count n : Nat} (text : List Char) (h : start + count ≤ n) :
    slice start count (text.take n) = slice start count text := by
  rw [slice, slice, List.drop_take, List.take_take, Nat.min_eq_left (by omega)]

/-- Neighbouring slices make one. -/
theorem slice_append_slice (start first second : Nat) (text : List Char) :
    slice start first text ++ slice (start + first) second text
      = slice start (first + second) text := by
  rw [slice, slice, slice, List.take_add, List.drop_drop]

end Text

open Text (AllHex slice)
open Text.HexWord (value?)

namespace Feed.Id

/-- A word whose digits are cut at the borders of the fields has these as its fields. -/
theorem ofWord_eq {w : Word256} {reserved assetClass feedType pairId : Nat}
    (hclass : assetClass < 2 ^ 16) (htype : feedType < 2 ^ 16) (hpair : pairId < 2 ^ 216)
    (hw : w.toNat = ((reserved * 2 ^ 16 + assetClass) * 2 ^ 16 + feedType) * 2 ^ 216 + pairId) :
    ofWord w = ⟨assetClass, feedType, pairId, reserved⟩ := by
  have hmask : (0xFFFF : Nat) = 2 ^ 16 - 1 := by decide
  have hlow : (1 <<< feedTypeShift - 1 : Nat) = 2 ^ 216 - 1 := by decide
  have hassetClass : w.toNat / 2 ^ 232 % 2 ^ 16 = assetClass := by omega
  have hfeedType : w.toNat / 2 ^ 216 % 2 ^ 16 = feedType := by omega
  have hpairId : w.toNat % 2 ^ 216 = pairId := by omega
  have hreserved : w.toNat / 2 ^ 248 = reserved := by omega
  rw [ofWord, hmask, hlow]
  simp only [Nat.and_two_pow_sub_one_eq_mod, Nat.shiftRight_eq_div_pow, assetClassShift,
    feedTypeShift, reservedShift, hassetClass, hfeedType, hpairId, hreserved]

/-- Sixty-four hexadecimal digits read as the feed id whose fields are the values of their
slices. -/
theorem ofHex_of_digits {digits : List Char} (hlength : digits.length = width)
    (h : AllHex digits) :
    ∃ reserved assetClass feedType pairId : Nat,
      value? (slice 0 2 digits) = some reserved ∧
      value? (slice 2 4 digits) = some assetClass ∧
      value? (slice 6 4 digits) = some feedType ∧
      value? (slice 10 54 digits) = some pairId ∧
      ofHex (String.ofList digits) = .ok ⟨assetClass, feedType, pairId, reserved⟩ := by
  have hvalue : ∀ start count : Nat, start + count ≤ 64 →
      ∃ n, value? (slice start count digits) = some n ∧ n < 16 ^ count := by
    intro start count hle
    obtain ⟨n, hn, hlt⟩ := Text.HexWord.value?_eq_some_of_allHex (h.slice start count)
    rw [Text.length_slice (by rw [hlength]; exact hle)] at hlt
    exact ⟨n, hn, hlt⟩
  obtain ⟨reserved, hreserved, _⟩ := hvalue 0 2 (by decide)
  obtain ⟨assetClass, hclass, hclassLt⟩ := hvalue 2 4 (by decide)
  obtain ⟨feedType, htype, htypeLt⟩ := hvalue 6 4 (by decide)
  obtain ⟨pairId, hpair, hpairLt⟩ := hvalue 10 54 (by decide)
  have hjoined : digits = slice 0 2 digits ++ slice 2 4 digits ++ slice 6 4 digits
      ++ slice 10 54 digits := by
    rw [Text.slice_append_slice 0 2 4, Text.slice_append_slice 0 (2 + 4) 4,
      Text.slice_append_slice 0 (2 + 4 + 4) 54]
    exact (List.take_of_length_le (Nat.le_of_eq hlength)).symm
  have hwhole : value? digits
      = some (((reserved * 16 ^ 4 + assetClass) * 16 ^ 4 + feedType) * 16 ^ 54 + pairId) := by
    have hfront := Text.HexWord.value?_append hreserved hclass
    have hmiddle := Text.HexWord.value?_append hfront htype
    have hall := Text.HexWord.value?_append hmiddle hpair
    rw [← hjoined, Text.length_slice (by rw [hlength]; decide),
      Text.length_slice (by rw [hlength]; decide),
      Text.length_slice (by rw [hlength]; decide)] at hall
    exact hall
  have hne : digits ≠ [] := by
    rintro rfl
    simp [width] at hlength
  obtain ⟨w, hw, hread⟩ := Word256.ofHex_of_allHex hne h (Nat.le_of_eq hlength)
  rw [hwhole] at hw
  refine ⟨reserved, assetClass, feedType, pairId, hreserved, hclass, htype, hpair, ?_⟩
  rw [ofHex, hread, Outcome.map_ok]
  exact congrArg Except.ok (ofWord_eq hclassLt htypeLt hpairLt (Option.some.inj hw).symm)

/-- The asset class of an id that has been read has few digits. -/
theorem isWritable_assetClass {s : String} {id : Id} (h : ofHex s = .ok id) :
    Text.Numeral.isWritable id.assetClass = true := by
  obtain ⟨w, _, rfl⟩ := Outcome.map_eq_ok_iff.mp h
  have hlt : (w.toNat >>> assetClassShift) &&& 0xFFFF < 2 ^ 16 := Nat.and_lt_two_pow _ (by decide)
  exact Text.Numeral.isWritable_of_lt (by decide : 5 ≤ _) (Nat.lt_trans hlt (by decide))

end Feed.Id

end OracleIndexer
