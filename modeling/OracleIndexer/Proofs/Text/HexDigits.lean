import Mathlib.Tactic.Ring
import OracleIndexer.Text.HexWord
import OracleIndexer.Text.Numeral
set_option autoImplicit false

/-!
# The value of digits

A run of digits has the value of its positions: cut in two, its front counts as often as the base to
the number of digits behind it.  Plain hexadecimal digits read as the same number in a hex word and
in a numeral.
-/

namespace OracleIndexer.Text

/-- All characters are hexadecimal digits. -/
def AllHex (text : List Char) : Prop := ∀ c ∈ text, isHexDigit c = true

theorem allHex_iff_all {text : List Char} : AllHex text ↔ text.all isHexDigit = true :=
  List.all_eq_true.symm

theorem AllHex.of_subset {text part : List Char} (h : AllHex text) (hpart : part ⊆ text) :
    AllHex part := fun c hc => h c (hpart hc)

theorem AllHex.take {text : List Char} (h : AllHex text) (n : Nat) : AllHex (text.take n) :=
  h.of_subset (List.take_subset n text)

theorem AllHex.drop {text : List Char} (h : AllHex text) (n : Nat) : AllHex (text.drop n) :=
  h.of_subset (List.drop_subset n text)

/-- Where hexadecimal digits lie among the characters. -/
theorem isHexDigit_iff_toNat {c : Char} :
    isHexDigit c = true ↔ (48 ≤ c.toNat ∧ c.toNat ≤ 57) ∨ (97 ≤ c.toNat ∧ c.toNat ≤ 102) ∨
      (65 ≤ c.toNat ∧ c.toNat ≤ 70) := by
  unfold isHexDigit hexValue?
  split
  · simp [*]
  · split
    · simp [*]
    · split <;> simp_all

theorem ne_of_isHexDigit {c d : Char} (hc : isHexDigit c = true) (hd : isHexDigit d = false) :
    c ≠ d := by
  rintro rfl
  rw [hc] at hd
  exact Bool.noConfusion hd

/-- Hexadecimal digits are printed ASCII characters. -/
theorem printed_of_isHexDigit {c : Char} (h : isHexDigit c = true) :
    c.toNat < 127 ∧ isBlank c = false := by
  have hrange := isHexDigit_iff_toNat.mp h
  refine ⟨by omega, ?_⟩
  simp only [isBlank, isAsciiBlank, Bool.or_eq_false_iff, decide_eq_false_iff_not,
    beq_eq_false_iff_ne]
  omega

theorem toNat_toLower (c : Char) :
    c.toLower.toNat = if 65 ≤ c.toNat ∧ c.toNat ≤ 90 then c.toNat + 32 else c.toNat := by
  unfold Char.toLower
  split
  · rename_i hcapital
    obtain ⟨hlow, hhigh⟩ : 65 ≤ c.toNat ∧ c.toNat ≤ 90 := hcapital
    rw [if_pos ⟨hlow, hhigh⟩]
    show (c.val + ('a'.val - 'A'.val)).toNat = c.val.toNat + 32
    have hstep : ('a'.val - 'A'.val).toNat = 32 := rfl
    have hbound : c.val.toNat ≤ 90 := hhigh
    rw [UInt32.toNat_add, hstep]
    omega
  · rename_i hother
    have hnot : ¬ (65 ≤ c.toNat ∧ c.toNat ≤ 90) := hother
    rw [if_neg hnot]

theorem isHexDigit_toLower {c : Char} (h : isHexDigit c = true) : isHexDigit c.toLower = true := by
  rw [isHexDigit_iff_toNat] at h ⊢
  rw [toNat_toLower]
  split <;> omega

theorem isHexDigit_digitChar {d : Nat} (h : d < 16) : isHexDigit d.digitChar = true := by
  revert d
  decide

/-- A number is written with hexadecimal digits. -/
theorem allHex_toDigits (n : Nat) : AllHex (Nat.toDigits 16 n) := by
  induction n using Nat.strongRecOn with
  | ind n ih =>
    by_cases hsmall : n < 16
    · rw [Nat.toDigits_of_lt_base hsmall]
      intro c hc
      rw [List.mem_singleton.mp hc]
      exact isHexDigit_digitChar hsmall
    · rw [Nat.toDigits_of_base_le (by decide) (by omega)]
      intro c hc
      rcases List.mem_append.mp hc with hc | hc
      · exact ih (n / 16) (by omega) c hc
      · rw [List.mem_singleton.mp hc]
        exact isHexDigit_digitChar (Nat.mod_lt n (by decide))

/-- Below ten the digit of a value is the decimal one. -/
theorem hexValue?_eq_some_iff_of_lt_ten {c : Char} {d : Nat} (hd : d < 10) :
    hexValue? c = some d ↔ c.toNat = 48 + d := by
  unfold hexValue?
  constructor
  · intro h
    split at h
    · have hval := Option.some.inj h
      omega
    · split at h
      · have hval := Option.some.inj h
        omega
      · split at h
        · have hval := Option.some.inj h
          omega
        · simp at h
  · intro h
    rw [if_pos (by omega)]
    congr 1
    omega

theorem hexValue?_eq_zero_iff {c : Char} : hexValue? c = some 0 ↔ c = '0' := by
  rw [hexValue?_eq_some_iff_of_lt_ten (by decide)]
  exact Char.toNat_inj (d := '0')

theorem hexValue?_eq_one_iff {c : Char} : hexValue? c = some 1 ↔ c = '1' := by
  rw [hexValue?_eq_some_iff_of_lt_ten (by decide)]
  exact Char.toNat_inj (d := '1')

@[simp] theorem digitValue?_sixteen (c : Char) : digitValue? 16 c = hexValue? c := by
  unfold digitValue?
  cases h : hexValue? c with
  | none => rfl
  | some d => simp [Option.filter, hexValue?_lt h]

/-- In base ten the digits are the ASCII decimal ones. -/
theorem digitValue?_ten (c : Char) :
    digitValue? 10 c = if isDecimalDigit c then some (c.toNat - 48) else none := by
  unfold digitValue? isDecimalDigit
  by_cases hdecimal : 48 ≤ c.toNat ∧ c.toNat ≤ 57
  · have hlt : c.toNat - 48 < 10 := by omega
    simp [hexValue?, hdecimal, Option.filter, hlt]
  · rw [if_neg (by simpa using hdecimal)]
    cases h : hexValue? c with
    | none => rfl
    | some d =>
      have hd : ¬ d < 10 := by
        intro hlt
        rw [hexValue?_eq_some_iff_of_lt_ten hlt] at h
        omega
      simp [Option.filter, hd]

namespace HexWord

/-! ## Runs of digits -/

@[simp] theorem valueFrom_nil (base start : Nat) : valueFrom base start [] = some start := rfl

theorem valueFrom_cons (base start : Nat) (c : Char) (rest : List Char) :
    valueFrom base start (c :: rest)
      = (digitValue? base c).bind fun d => valueFrom base (start * base + d) rest := by
  rw [valueFrom]
  cases digitValue? base c <;> rfl

theorem valueFrom_append (base start : Nat) (front back : List Char) :
    valueFrom base start (front ++ back)
      = (valueFrom base start front).bind fun v => valueFrom base v back := by
  induction front generalizing start with
  | nil => rfl
  | cons c rest ih =>
    rw [List.cons_append, valueFrom_cons, valueFrom_cons]
    cases digitValue? base c with
    | none => rfl
    | some d => exact ih _

/-- A value in front counts once for every way to fill the digits behind it. -/
theorem valueFrom_eq_map (base start : Nat) (text : List Char) :
    valueFrom base start text
      = (valueFrom base 0 text).map fun v => start * base ^ text.length + v := by
  induction text generalizing start with
  | nil => simp
  | cons c rest ih =>
    rw [valueFrom_cons, valueFrom_cons]
    cases digitValue? base c with
    | none => rfl
    | some d =>
      simp only [Option.bind_some]
      rw [ih (start * base + d), ih (0 * base + d), Option.map_map]
      congr 1
      funext v
      simp only [Function.comp_apply, List.length_cons, Nat.pow_succ]
      ring

/-- Text has a value in a base exactly if all its characters are digits of the base. -/
theorem valueFrom_isSome_iff {base start : Nat} {text : List Char} :
    (valueFrom base start text).isSome = true ↔
      ∀ c ∈ text, (digitValue? base c).isSome = true := by
  induction text generalizing start with
  | nil => simp
  | cons c rest ih =>
    rw [valueFrom_cons, List.forall_mem_cons]
    cases digitValue? base c with
    | none => simp
    | some d => simpa using ih

/-- Text with a value in base ten is made of decimal digits. -/
theorem isDecimalDigit_of_valueFrom {text : List Char} {start n : Nat}
    (h : valueFrom 10 start text = some n) : ∀ c ∈ text, isDecimalDigit c = true := by
  have hsome : (valueFrom 10 start text).isSome = true := by rw [h]; rfl
  intro c hc
  have hdigit := valueFrom_isSome_iff.mp hsome c hc
  rw [digitValue?_ten] at hdigit
  by_contra hnot
  rw [if_neg hnot] at hdigit
  exact Bool.noConfusion hdigit

theorem valueFrom_lt {base n : Nat} {text : List Char} (h : valueFrom base 0 text = some n) :
    n < base ^ text.length := by
  induction text generalizing n with
  | nil =>
    obtain rfl := Option.some.inj h
    simp
  | cons c rest ih =>
    rw [valueFrom_cons] at h
    obtain ⟨d, hd, hrest⟩ := Option.bind_eq_some_iff.mp h
    rw [valueFrom_eq_map] at hrest
    obtain ⟨v, hv, rfl⟩ := Option.map_eq_some_iff.mp hrest
    have hdigit := digitValue?_lt hd
    have hvalue := ih hv
    rw [List.length_cons, Nat.pow_succ]
    calc (0 * base + d) * base ^ rest.length + v
        < (0 * base + d) * base ^ rest.length + base ^ rest.length := by omega
      _ = (d + 1) * base ^ rest.length := by ring
      _ ≤ base * base ^ rest.length := Nat.mul_le_mul_right _ hdigit
      _ = base ^ rest.length * base := Nat.mul_comm _ _

theorem value?_eq_some_of_allHex {text : List Char} (h : AllHex text) :
    ∃ n, value? text = some n ∧ n < 16 ^ text.length := by
  have hsome : (valueFrom 16 0 text).isSome = true := by
    rw [valueFrom_isSome_iff]
    intro c hc
    rw [digitValue?_sixteen]
    exact h c hc
  obtain ⟨n, hn⟩ := Option.isSome_iff_exists.mp hsome
  exact ⟨n, hn, valueFrom_lt hn⟩

/-- The value of hexadecimal digits cut in two. -/
theorem value?_append {front back : List Char} {x y : Nat} (hfront : value? front = some x)
    (hback : value? back = some y) :
    value? (front ++ back) = some (x * 16 ^ back.length + y) := by
  have hf : valueFrom 16 0 front = some x := hfront
  have hb : valueFrom 16 0 back = some y := hback
  rw [value?, valueFrom_append, hf, Option.bind_some, valueFrom_eq_map, hb, Option.map_some]

/-- Digits have the value zero only if all are zeros. -/
theorem value?_eq_zero_iff {text : List Char} :
    value? text = some 0 ↔ text = List.replicate text.length '0' := by
  induction text with
  | nil => simp [value?]
  | cons c rest ih =>
    rw [List.length_cons, List.replicate_succ, List.cons.injEq, ← ih, ← hexValue?_eq_zero_iff,
      value?, valueFrom_cons, digitValue?_sixteen]
    constructor
    · intro h
      obtain ⟨d, hd, hrest⟩ := Option.bind_eq_some_iff.mp h
      rw [valueFrom_eq_map] at hrest
      obtain ⟨v, hv, hsum⟩ := Option.map_eq_some_iff.mp hrest
      have hpos : 0 < 16 ^ rest.length := Nat.pow_pos (by decide)
      obtain ⟨hzero, rfl⟩ : (0 * 16 + d) * 16 ^ rest.length = 0 ∧ v = 0 := by omega
      obtain rfl : d = 0 := by
        rcases Nat.mul_eq_zero.mp hzero with h0 | h0 <;> omega
      exact ⟨hd, hv⟩
    · rintro ⟨hc, hrest⟩
      rw [hc, Option.bind_some]
      exact hrest

/-- Two digits have the value one only if they are a zero and a one. -/
theorem value?_pair_eq_one_iff {c d : Char} : value? [c, d] = some 1 ↔ c = '0' ∧ d = '1' := by
  rw [← hexValue?_eq_zero_iff, ← hexValue?_eq_one_iff]
  simp only [value?, valueFrom_cons, valueFrom_nil, digitValue?_sixteen]
  constructor
  · intro h
    obtain ⟨x, hx, hrest⟩ := Option.bind_eq_some_iff.mp h
    obtain ⟨y, hy, hsum⟩ := Option.bind_eq_some_iff.mp hrest
    have hval : (0 * 16 + x) * 16 + y = 1 := Option.some.inj hsum
    obtain ⟨rfl, rfl⟩ : x = 0 ∧ y = 1 := by omega
    exact ⟨hx, hy⟩
  · rintro ⟨hc, hd⟩
    rw [hc, hd]
    rfl

end HexWord

namespace Numeral

open HexWord (value? valueFrom valueFrom_cons value?_eq_some_of_allHex)

/-! ## Plain digits as a numeral -/

theorem moreDigits_eq_valueFrom {base value : Nat} {text : List Char} (h : '_' ∉ text) :
    moreDigits base value text = valueFrom base value text := by
  induction text generalizing value with
  | nil => rfl
  | cons c rest ih =>
    obtain ⟨hc, hrest⟩ : '_' ≠ c ∧ '_' ∉ rest := by simpa using h
    rw [valueFrom_cons, moreDigits.eq_def]
    split
    · simp_all
    · simp_all
    · rename_i hcons
      obtain ⟨rfl, rfl⟩ := List.cons.inj hcons
      cases digitValue? base c with
      | none => rfl
      | some d => exact ih hrest

theorem digits_eq_valueFrom {base : Nat} {text : List Char} (hne : text ≠ []) (h : '_' ∉ text) :
    digits base text = valueFrom base 0 text := by
  cases text with
  | nil => exact absurd rfl hne
  | cons c rest =>
    rw [valueFrom_cons, digits]
    cases digitValue? base c with
    | none => rfl
    | some d =>
      have hrest : '_' ∉ rest := fun hmem => h (List.mem_cons_of_mem c hmem)
      show moreDigits base d rest = valueFrom base (0 * base + d) rest
      rw [moreDigits_eq_valueFrom hrest, Nat.zero_mul, Nat.zero_add]

/-- A zero and a hexadecimal digit mark no base. -/
theorem magnitude_of_allHex {text : List Char} (hne : text ≠ []) (h : AllHex text) :
    magnitude 16 text = value? text := by
  have hunderscore : '_' ∉ text := fun hmem => absurd (h '_' hmem) (by decide)
  rw [value?, ← digits_eq_valueFrom hne hunderscore, magnitude.eq_def]
  split
  · rename_i letter rest
    have hletter : isHexDigit letter = true := h letter (by simp)
    have hsmall : (letter == 'x') = false := by simpa using ne_of_isHexDigit hletter (by decide)
    have hcapital : (letter == 'X') = false := by
      simpa using ne_of_isHexDigit hletter (by decide)
    simp [marksBase, hsmall, hcapital]
  · rfl

/-- Printed ASCII text is read as it stands. -/
theorem read_eq_signed {base : Nat} {text : List Char}
    (h : ∀ c ∈ text, c.toNat < 127 ∧ isBlank c = false) : read base text = signed base text := by
  have hascii : ∀ c ∈ text, c.toNat < 127 := fun c hc => (h c hc).1
  have hblank : ∀ c ∈ text, isAsciiBlank c = false := by
    intro c hc
    by_contra hnot
    have hblank := isBlank_of_isAsciiBlank (Bool.eq_true_of_not_eq_false hnot)
    rw [(h c hc).2] at hblank
    exact Bool.noConfusion hblank
  have htrim : trimBy isAsciiBlank text = text := by
    apply trimBy_eq_self
    · intro c hc
      exact hblank c (List.mem_of_mem_head? hc)
    · intro c hc
      exact hblank c (List.mem_of_getLast? hc)
  rw [read, map_canonical_of_ascii hascii, htrim]

/-- Plain hexadecimal digits are a numeral of base sixteen, with the value that they have. -/
theorem read_of_allHex {text : List Char} (hne : text ≠ []) (h : AllHex text) :
    read 16 text = (value? text).map Int.ofNat := by
  rw [read_eq_signed fun c hc => printed_of_isHexDigit (h c hc), signed.eq_def]
  split
  · exact absurd (h '-' (by simp)) (by decide)
  · exact absurd (h '+' (by simp)) (by decide)
  · rw [magnitude_of_allHex hne h]

/-- So are they behind the mark of the base. -/
theorem read_of_marked {digits : List Char} (hne : digits ≠ []) (h : AllHex digits) :
    read 16 ('0' :: 'x' :: digits) = (value? digits).map Int.ofNat := by
  have hprinted : ∀ c ∈ '0' :: 'x' :: digits, c.toNat < 127 ∧ isBlank c = false := by
    intro c hc
    rcases List.mem_cons.mp hc with rfl | hc
    · decide
    · rcases List.mem_cons.mp hc with rfl | hc
      · decide
      · exact printed_of_isHexDigit (h c hc)
  have hunderscore : '_' ∉ digits := fun hmem => absurd (h '_' hmem) (by decide)
  have hmagnitude : magnitude 16 ('0' :: 'x' :: digits) = value? digits := by
    rw [value?, ← digits_eq_valueFrom hne hunderscore, magnitude, if_pos (by rfl)]
    intro more hmore
    exact hunderscore (by simp [hmore])
  rw [read_eq_signed hprinted, ← hmagnitude]
  rfl

end Numeral

end OracleIndexer.Text
