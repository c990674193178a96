import Mathlib.Data.List.Basic
import Mathlib.Data.List.Induction
import OracleIndexer.Proofs.Text.HexWriting
set_option autoImplicit false

/-!
# Decimal texts

The decimal text of a number is made of its digits, without a zero in front unless it is zero.
Every number has one such text, the one that it is written with.
-/

namespace OracleIndexer.Text

open HexWord (valueFrom valueFrom_cons valueFrom_append)

/-! ## Digits -/

theorem isDecimalDigit_of_mem_toDigits {n : Nat} {c : Char} (h : c ∈ Nat.toDigits 10 n) :
    isDecimalDigit c = true := by
  have hdigit : c.isDigit = true := Nat.isDigit_of_mem_toDigits (by decide) (by decide) h
  exact decide_eq_true (Char.isDigit_iff_toNat.mp hdigit)

/-- A number other than zero starts with no zero. -/
theorem head?_toDigits {n : Nat} (h : 0 < n) : (Nat.toDigits 10 n).head? ≠ some '0' := by
  induction n using Nat.strongRecOn with
  | ind n ih =>
    by_cases hsmall : n < 10
    · have hdigit : ∀ d < 10, 0 < d → some d.digitChar ≠ some '0' := by decide
      rw [Nat.toDigits_of_lt_base hsmall]
      exact hdigit n hsmall h
    · rw [Nat.toDigits_of_base_le (by decide) (by omega),
        List.head?_append_of_ne_nil _ Nat.toDigits_ne_nil]
      exact ih (n / 10) (by omega) (by omega)

/-- A decimal digit is the one that its value is written with. -/
theorem eq_digitChar_of_digitValue?_ten {c : Char} {d : Nat} (h : digitValue? 10 c = some d) :
    c = d.digitChar := by
  have hlt : d < 10 := digitValue?_lt h
  have hcode : c.toNat = 48 + d :=
    (hexValue?_eq_some_iff_of_lt_ten hlt).mp (Option.filter_eq_some_iff.mp h).1
  apply Char.toNat_inj.mp
  rw [hcode, toNat_digitChar (by omega), if_pos hlt]

theorem length_toDigits_pow (k : Nat) : (Nat.toDigits 10 (10 ^ k)).length = k + 1 := by
  have hle : (Nat.toDigits 10 (10 ^ k)).length ≤ k + 1 :=
    (Nat.length_toDigits_le_iff (by decide) (Nat.succ_pos k)).mpr
      (Nat.pow_lt_pow_right (by decide) (Nat.lt_succ_self k))
  have hlt : ¬ (Nat.toDigits 10 (10 ^ k)).length ≤ k := by
    intro hshort
    rcases Nat.eq_zero_or_pos k with rfl | hpos
    · exact Nat.toDigits_ne_nil (List.length_eq_zero_iff.mp (Nat.le_zero.mp hshort))
    · exact absurd ((Nat.length_toDigits_le_iff (by decide) hpos).mp hshort) (Nat.lt_irrefl _)
  omega

/-! ## Texts of numbers -/

/-- A number in decimal digits, without zeros in front of them. -/
structure IsDecimal (n : Nat) (text : List Char) : Prop where
  value : valueFrom 10 0 text = some n
  nonempty : text ≠ []
  shortest : text.head? = some '0' → text = ['0']

theorem isDecimal_toDigits (n : Nat) : IsDecimal n (Nat.toDigits 10 n) where
  value := HexWord.valueFrom_toDigits (by decide) (by decide) n
  nonempty := Nat.toDigits_ne_nil
  shortest hzero := by
    rcases Nat.eq_zero_or_pos n with rfl | hpos
    · rfl
    · exact absurd hzero (head?_toDigits hpos)

/-- A number has no other decimal text than the one it is written with. -/
theorem IsDecimal.eq_toDigits {n : Nat} {text : List Char} (h : IsDecimal n text) :
    text = Nat.toDigits 10 n := by
  obtain ⟨hvalue, hne, hshortest⟩ := h
  induction text using List.reverseRecOn generalizing n with
  | nil => exact absurd rfl hne
  | append_singleton front c ih =>
    rw [valueFrom_append] at hvalue
    obtain ⟨x, hx, hlast⟩ := Option.bind_eq_some_iff.mp hvalue
    rw [valueFrom_cons] at hlast
    obtain ⟨d, hd, hsum⟩ := Option.bind_eq_some_iff.mp hlast
    have hlt : d < 10 := digitValue?_lt hd
    obtain rfl : x * 10 + d = n := Option.some.inj hsum
    cases front with
    | nil =>
      obtain rfl : 0 = x := Option.some.inj hx
      rw [Nat.zero_mul, Nat.zero_add, Nat.toDigits_of_lt_base hlt, List.nil_append,
        eq_digitChar_of_digitValue?_ten hd]
    | cons b more =>
      -- several digits start with no zero, so those in front of the last are a decimal text too
      have hfirst : (b :: more).head? ≠ some '0' := by
        intro hzero
        have hlength := congrArg List.length (hshortest hzero)
        simp at hlength
      have hfront : b :: more = Nat.toDigits 10 x :=
        ih hx (List.cons_ne_nil b more) fun hzero => absurd hzero hfirst
      have hpos : x ≠ 0 := by
        rintro rfl
        exact hfirst (by rw [hfront]; rfl)
      have hquotient : (x * 10 + d) / 10 = x := by omega
      have hremainder : (x * 10 + d) % 10 = d := by omega
      rw [Nat.toDigits_of_base_le (by decide) (by omega), hquotient, hremainder, ← hfront,
        eq_digitChar_of_digitValue?_ten hd]

theorem isDecimal_iff {n : Nat} {text : List Char} :
    IsDecimal n text ↔ text = Nat.toDigits 10 n :=
  ⟨fun h => h.eq_toDigits, fun h => h ▸ isDecimal_toDigits n⟩

end OracleIndexer.Text
