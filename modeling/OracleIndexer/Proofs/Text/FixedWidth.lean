import OracleIndexer.Proofs.Text.HexWriting
set_option autoImplicit false

/-!
# Decimals of fixed width

Decimal digits of one width stand in the order of their numbers.  So texts that start with such
digits stand in the order of these numbers, and those with the same number in the order of what
follows.
-/

namespace OracleIndexer.Text

open HexWord (valueFrom valueFrom_cons valueFrom_eq_map valueFrom_lt)

/-- A number written in decimal digits, as many as a width asks for. -/
structure FixedWidth (width n : Nat) (digits : List Char) : Prop where
  length : digits.length = width
  value : valueFrom 10 0 digits = some n

namespace FixedWidth

/-! ## Padding -/

/-- A number with room in a width is written with its zeros in front. -/
theorem paddedDecimal {width n : Nat} (hpos : 0 < width) (h : n < 10 ^ width) :
    FixedWidth width n (Numeral.paddedDecimal width n) where
  length := by
    have hlength : (Nat.toDigits 10 n).length ≤ width :=
      (Nat.length_toDigits_le_iff (by decide) hpos).mpr h
    rw [Numeral.paddedDecimal, List.length_leftpad]
    exact Nat.max_eq_left hlength
  value := by
    rw [Numeral.paddedDecimal, List.leftpad, HexWord.valueFrom_replicate_append (by decide)]
    exact HexWord.valueFrom_toDigits (by decide) (by decide) n

/-! ## Order -/

/-- The first digit of a run, and the rest. -/
theorem exists_cons {width n : Nat} {digits : List Char} (h : FixedWidth (width + 1) n digits) :
    ∃ c rest d m, digits = c :: rest ∧ c.toNat = 48 + d ∧ FixedWidth width m rest ∧
      m < 10 ^ width ∧ n = d * 10 ^ width + m := by
  obtain ⟨hlength, hvalue⟩ := h
  cases digits with
  | nil => simp at hlength
  | cons c rest =>
    rw [valueFrom_cons] at hvalue
    obtain ⟨d, hd, hrest⟩ := Option.bind_eq_some_iff.mp hvalue
    rw [valueFrom_eq_map] at hrest
    obtain ⟨m, hm, hn⟩ := Option.map_eq_some_iff.mp hrest
    obtain rfl : rest.length = width := by simpa using hlength
    have hdigit : hexValue? c = some d := (Option.filter_eq_some_iff.mp hd).1
    refine ⟨c, rest, d, m, rfl, ?_, ⟨rfl, hm⟩, valueFrom_lt hm, ?_⟩
    · exact (hexValue?_eq_some_iff_of_lt_ten (digitValue?_lt hd)).mp hdigit
    · rw [← hn, Nat.zero_mul, Nat.zero_add]

/-- Numbers below a bound, each in front of a remainder below it, stand in their order. -/
theorem mul_add_lt_iff {bound d e m n : Nat} (hm : m < bound) (hn : n < bound) :
    d * bound + m < e * bound + n ↔ d < e ∨ (d = e ∧ m < n) := by
  rcases Nat.lt_trichotomy d e with h | rfl | h
  · have hle : (d + 1) * bound ≤ e * bound := Nat.mul_le_mul_right _ h
    rw [Nat.add_mul] at hle
    omega
  · omega
  · have hle : (e + 1) * bound ≤ d * bound := Nat.mul_le_mul_right _ h
    rw [Nat.add_mul] at hle
    omega

theorem mul_add_eq_iff {bound d e m n : Nat} (hm : m < bound) (hn : n < bound) :
    d * bound + m = e * bound + n ↔ d = e ∧ m = n := by
  have hlt := mul_add_lt_iff (d := d) (e := e) hm hn
  have hgt := mul_add_lt_iff (d := e) (e := d) hn hm
  omega

/-- Texts that start with numbers of one width stand in the order of these numbers, and then of what
follows. -/
theorem append_lt_append_iff {width n k : Nat} {digits others x y : List Char}
    (h : FixedWidth width n digits) (hother : FixedWidth width k others) :
    digits ++ x < others ++ y ↔ n < k ∨ (n = k ∧ x < y) := by
  induction width generalizing n k digits others with
  | zero =>
    obtain rfl := List.length_eq_zero_iff.mp h.length
    obtain rfl := List.length_eq_zero_iff.mp hother.length
    obtain rfl := Option.some.inj h.value
    obtain rfl := Option.some.inj hother.value
    simp
  | succ width ih =>
    obtain ⟨c, rest, d, m, rfl, hc, hrest, hm, rfl⟩ := h.exists_cons
    obtain ⟨c', rest', d', m', rfl, hc', hrest', hm', rfl⟩ := hother.exists_cons
    have hlt : c < c' ↔ d < d' := by
      show c.toNat < c'.toNat ↔ d < d'
      omega
    have heq : c = c' ↔ d = d' := by
      rw [← Char.toNat_inj]
      omega
    rw [List.cons_append, List.cons_append, List.cons_lt_cons_iff, ih hrest hrest', hlt, heq,
      mul_add_lt_iff hm hm', mul_add_eq_iff hm hm']
    simp only [and_or_left, and_assoc, or_assoc]

end FixedWidth

end OracleIndexer.Text
