import OracleIndexer.Conversion
import OracleIndexer.Proofs.Outcome
import OracleIndexer.Proofs.Text.Decimal
set_option autoImplicit false

/-!
# What is converted

A numeral is converted exactly if it reads and is not too long, and only decimal numerals are ever
too long.  A number is written exactly if it lies below a power of ten.  Whatever stands in the way
of a conversion, or of the wording of a fault that concerns one event alone, concerns that event
alone.
-/

namespace OracleIndexer

open Outcome (Skippable)

namespace Text.Numeral

/-! ## From text -/

theorem convert_eq_ok_iff {base : Nat} {text : List Char} {told : String} {n : Int} :
    convert base text told = .ok n ↔ read base text = some n ∧ isLong base text = false := by
  rw [convert]
  cases read base text with
  | none => simp
  | some m => cases isLong base text <;> simp

theorem skippable_convert (base : Nat) (text : List Char) (told : String) :
    Skippable (convert base text told) := by
  rw [convert]
  split
  · exact .error rfl
  · split
    · exact .error rfl
    · exact .ok _

/-- The digits of base sixteen are groups of bits. -/
theorem isLong_sixteen (text : List Char) : isLong 16 text = false := rfl

/-- Plain decimal digits are counted as they stand. -/
theorem digitCount_of_decimal {digits : List Char} (h : ∀ c ∈ digits, isDecimalDigit c = true) :
    digitCount digits = digits.length := by
  have hascii : ∀ c ∈ digits, c.toNat < 127 := by
    intro c hc
    have hrange : 48 ≤ c.toNat ∧ c.toNat ≤ 57 := of_decide_eq_true (h c hc)
    omega
  rw [digitCount, map_canonical_of_ascii hascii, List.countP_eq_length.mpr h]

theorem isLong_of_decimal {digits : List Char} (h : ∀ c ∈ digits, isDecimalDigit c = true) :
    isLong 10 digits = decide (digitLimit < digits.length) := by
  rw [← digitCount_of_decimal h]
  rfl

/-! ## To text -/

theorem isWritable_iff {n : Int} : isWritable n = true ↔ n.natAbs < 10 ^ digitLimit := by
  rw [isWritable, decide_eq_true_eq]
  exact Nat.length_toDigits_le_iff (by decide) (by decide)

theorem isWritable_eq_false_iff {n : Int} : isWritable n = false ↔ 10 ^ digitLimit ≤ n.natAbs := by
  rw [← Bool.not_eq_true, isWritable_iff, Nat.not_lt]

/-- So is a number below a smaller power of ten. -/
theorem isWritable_of_lt {n : Int} {k : Nat} (hk : k ≤ digitLimit) (h : n.natAbs < 10 ^ k) :
    isWritable n = true :=
  isWritable_iff.mpr (Nat.lt_of_lt_of_le h (Nat.pow_le_pow_right (by decide) hk))

theorem isWritable_pow {k : Nat} (h : digitLimit ≤ k) : isWritable (10 ^ k) = false := by
  rw [isWritable_eq_false_iff, Int.natAbs_pow]
  exact Nat.pow_le_pow_right (by decide) h

/-- No power of two from this one on can be written. -/
theorem pow_digitLimit_le {k : Nat} (h : 14340 ≤ k) : 10 ^ digitLimit ≤ 2 ^ k := by
  obtain ⟨thirds, hdigits, hplaces⟩ : ∃ n, digitLimit ≤ 3 * n ∧ 10 * n ≤ k := ⟨1434, by decide, h⟩
  calc 10 ^ digitLimit
    _ ≤ 10 ^ (3 * thirds) := Nat.pow_le_pow_right (by decide) hdigits
    _ = (10 ^ 3) ^ thirds := Nat.pow_mul 10 3 thirds
    _ ≤ (2 ^ 10) ^ thirds := Nat.pow_le_pow_left (by decide) thirds
    _ = 2 ^ (10 * thirds) := (Nat.pow_mul 2 10 thirds).symm
    _ ≤ 2 ^ k := Nat.pow_le_pow_right (by decide) hplaces

end Text.Numeral

theorem Json.asText_eq_ok_iff {document : Json} {text : String} :
    document.asText = .ok text ↔ document.isWritable = true ∧ document.shownText = text := by
  rw [asText]
  split <;> simp_all

theorem Json.skippable_asText (document : Json) : Skippable document.asText := by
  rw [asText]
  split
  · exact .ok _
  · exact .error rfl

end OracleIndexer
