import OracleIndexer.Proofs.Text.HexDigits
set_option autoImplicit false

/-!
# One number in hexadecimal digits

A number has one run of small hexadecimal digits of each length that is long enough: the case of the
digits aside, two runs with the same value differ only in the zeros in front of them.  The digits
that a number is written with have its value.
-/

namespace OracleIndexer.Text

/-! ## Digits and their case -/

theorem hexValue?_toLower (c : Char) : hexValue? c.toLower = hexValue? c := by
  unfold hexValue?
  rw [toNat_toLower]
  by_cases hcapital : 65 ≤ c.toNat ∧ c.toNat ≤ 90
  · rw [if_pos hcapital]
    rcases Nat.lt_or_ge 70 c.toNat with hlarge | hsmall
    · rw [if_neg (by omega), if_neg (by omega), if_neg (by omega), if_neg (by omega),
        if_neg (by omega), if_neg (by omega)]
    · rw [if_neg (by omega), if_pos (by omega), if_neg (by omega), if_neg (by omega),
        if_pos (by omega)]
      exact congrArg some (by omega)
  · rw [if_neg hcapital]

theorem hexValue?_digitChar {d : Nat} (h : d < 16) : hexValue? d.digitChar = some d := by
  revert d
  decide

theorem toLower_digitChar {d : Nat} (h : d < 16) : d.digitChar.toLower = d.digitChar := by
  revert d
  decide

theorem toNat_digitChar {d : Nat} (h : d < 16) :
    d.digitChar.toNat = if d < 10 then 48 + d else 87 + d := by
  revert d
  decide

/-- A small digit is the one that its value is written with. -/
theorem eq_digitChar_of_hexValue? {c : Char} {d : Nat} (hvalue : hexValue? c = some d)
    (hlower : c.toLower = c) : c = d.digitChar := by
  have hnot : ¬ (65 ≤ c.toNat ∧ c.toNat ≤ 70) := by
    intro hcapital
    have hmoved := toNat_toLower c
    rw [hlower, if_pos (by omega)] at hmoved
    omega
  apply Char.toNat_inj.mp
  rw [toNat_digitChar (hexValue?_lt hvalue)]
  unfold hexValue? at hvalue
  split at hvalue
  · have hd := Option.some.inj hvalue
    rw [if_pos (by omega)]
    omega
  · split at hvalue
    · have hd := Option.some.inj hvalue
      rw [if_neg (by omega)]
      omega
    · cases hvalue

namespace HexWord

theorem value?_cons (c : Char) (rest : List Char) :
    value? (c :: rest)
      = (hexValue? c).bind fun d => (value? rest).map fun v => d * 16 ^ rest.length + v := by
  rw [value?, valueFrom_cons, digitValue?_sixteen]
  congr 1
  funext d
  rw [valueFrom_eq_map, Nat.zero_mul, Nat.zero_add]
  rfl

theorem allHex_of_value? {text : List Char} {n : Nat} (h : value? text = some n) :
    AllHex text := by
  have hsome : (valueFrom 16 0 text).isSome = true := by
    rw [← value?, h]
    rfl
  intro c hc
  have hdigit := valueFrom_isSome_iff.mp hsome c hc
  rwa [digitValue?_sixteen] at hdigit

theorem value?_map_toLower (text : List Char) : value? (text.map Char.toLower) = value? text := by
  induction text with
  | nil => rfl
  | cons c rest ih =>
    rw [List.map_cons, value?_cons, value?_cons, hexValue?_toLower, ih, List.length_map]

/-- Zeros in front do not count. -/
theorem valueFrom_replicate_append {base : Nat} (hbase : 0 < base) (k : Nat) (text : List Char) :
    valueFrom base 0 (List.replicate k '0' ++ text) = valueFrom base 0 text := by
  have hzero : digitValue? base '0' = some 0 := by
    rw [digitValue?, show hexValue? '0' = some 0 from rfl, Option.filter_some, if_pos]
    exact decide_eq_true hbase
  induction k with
  | zero => rfl
  | succ k ih =>
    rw [List.replicate_succ, List.cons_append, valueFrom_cons, hzero, Option.bind_some,
      Nat.zero_mul, Nat.add_zero, ih]

theorem value?_replicate_append (k : Nat) (text : List Char) :
    value? (List.replicate k '0' ++ text) = value? text :=
  valueFrom_replicate_append (by decide) k text

theorem digitValue?_digitChar {base d : Nat} (hbase : base ≤ 16) (h : d < base) :
    digitValue? base d.digitChar = some d := by
  rw [digitValue?, hexValue?_digitChar (Nat.lt_of_lt_of_le h hbase)]
  simp [h]

/-- The digits of a number in a base have its value there. -/
theorem valueFrom_toDigits {base : Nat} (hlow : 1 < base) (hhigh : base ≤ 16) (n : Nat) :
    valueFrom base 0 (Nat.toDigits base n) = some n := by
  have hdigit : ∀ start d, d < base →
      valueFrom base start [d.digitChar] = some (start * base + d) := by
    intro start d hd
    rw [valueFrom_cons, digitValue?_digitChar hhigh hd, Option.bind_some, valueFrom_nil]
  induction n using Nat.strongRecOn with
  | ind n ih =>
    by_cases hsmall : n < base
    · rw [Nat.toDigits_of_lt_base hsmall, hdigit 0 n hsmall, Nat.zero_mul, Nat.zero_add]
    · have hrest := ih (n / base) (Nat.div_lt_self (by omega) hlow)
      rw [Nat.toDigits_of_base_le hlow (by omega), valueFrom_append, hrest, Option.bind_some,
        hdigit _ _ (Nat.mod_lt n (by omega)), Nat.div_add_mod']

/-- The digits of a number have its value. -/
theorem value?_toDigits (n : Nat) : value? (Nat.toDigits 16 n) = some n :=
  valueFrom_toDigits (by decide) (by decide) n

/-! ## Runs of one value -/

/-- Digits without capitals. -/
def IsSmall (text : List Char) : Prop := text.map Char.toLower = text

theorem isSmall_cons {c : Char} {rest : List Char} :
    IsSmall (c :: rest) ↔ c.toLower = c ∧ IsSmall rest := by
  simp [IsSmall]

theorem isSmall_append {front back : List Char} (hfront : IsSmall front) (hback : IsSmall back) :
    IsSmall (front ++ back) := by
  rw [IsSmall, List.map_append, hfront, hback]

theorem isSmall_replicate_zero (k : Nat) : IsSmall (List.replicate k '0') := by
  rw [IsSmall, List.map_replicate]
  rfl

theorem isSmall_map_toLower (text : List Char) : IsSmall (text.map Char.toLower) := by
  have htwice : Char.toLower ∘ Char.toLower = Char.toLower := by
    funext c
    apply Char.toNat_inj.mp
    rw [Function.comp, toNat_toLower]
    split
    · have hmoved := toNat_toLower c
      split at hmoved <;> omega
    · rfl
  rw [IsSmall, List.map_map, htwice]

/-- A number is written with small digits. -/
theorem isSmall_toDigits (n : Nat) : IsSmall (Nat.toDigits 16 n) := by
  induction n using Nat.strongRecOn with
  | ind n ih =>
    by_cases hsmall : n < 16
    · rw [Nat.toDigits_of_lt_base hsmall, isSmall_cons]
      exact ⟨toLower_digitChar hsmall, rfl⟩
    · rw [Nat.toDigits_of_base_le (by decide) (by omega)]
      have hlast : IsSmall [(n % 16).digitChar] :=
        isSmall_cons.mpr ⟨toLower_digitChar (Nat.mod_lt n (by decide)), rfl⟩
      exact isSmall_append (ih (n / 16) (by omega)) hlast

/-- Small digits are known by their number and their value. -/
theorem eq_of_value?_eq {a b : List Char} {n : Nat} (hlength : a.length = b.length)
    (ha : IsSmall a) (hb : IsSmall b) (hva : value? a = some n) (hvb : value? b = some n) :
    a = b := by
  induction a generalizing b n with
  | nil => exact (List.length_eq_zero_iff.mp hlength.symm).symm
  | cons c rest ih =>
    cases b with
    | nil => exact absurd hlength (by simp)
    | cons d more =>
      rw [List.length_cons, List.length_cons, Nat.add_right_cancel_iff] at hlength
      obtain ⟨hc, hrest⟩ := isSmall_cons.mp ha
      obtain ⟨hd, hmore⟩ := isSmall_cons.mp hb
      rw [value?_cons] at hva hvb
      obtain ⟨x, hx, hva⟩ := Option.bind_eq_some_iff.mp hva
      obtain ⟨y, hy, hvb⟩ := Option.bind_eq_some_iff.mp hvb
      obtain ⟨v, hv, hleft⟩ := Option.map_eq_some_iff.mp hva
      obtain ⟨w, hw, hright⟩ := Option.map_eq_some_iff.mp hvb
      have hvlt : v < 16 ^ rest.length := valueFrom_lt hv
      have hwlt : w < 16 ^ more.length := valueFrom_lt hw
      rw [← hlength] at hright hwlt
      -- the first digit is the quotient by what it counts, since those behind it stay below that
      have hpos : 0 < 16 ^ rest.length := Nat.pow_pos (by decide)
      have hquotient : ∀ z u, z * 16 ^ rest.length + u = n → u < 16 ^ rest.length →
          n / 16 ^ rest.length = z := by
        intro z u hsum hlt
        rw [← hsum, Nat.add_comm, Nat.add_mul_div_right _ _ hpos, Nat.div_eq_of_lt hlt,
          Nat.zero_add]
      obtain rfl : x = y := (hquotient x v hleft hvlt).symm.trans (hquotient y w hright hwlt)
      obtain rfl : v = w := Nat.add_left_cancel (hleft.trans hright.symm)
      rw [eq_digitChar_of_hexValue? hx hc, eq_digitChar_of_hexValue? hy hd,
        ih hlength hrest hmore hv hw]

/-- Of two runs of small digits with one value, the longer is the shorter behind zeros. -/
theorem eq_replicate_append_of_value?_eq {a b : List Char} {n : Nat} (hle : b.length ≤ a.length)
    (ha : IsSmall a) (hb : IsSmall b) (hva : value? a = some n) (hvb : value? b = some n) :
    a = List.replicate (a.length - b.length) '0' ++ b := by
  refine eq_of_value?_eq ?_ ha (isSmall_append (isSmall_replicate_zero _) hb) hva ?_
  · rw [List.length_append, List.length_replicate]
    omega
  · rw [value?_replicate_append, hvb]

theorem dropWhile_replicate_append (k : Nat) (text : List Char) :
    (List.replicate k '0' ++ text).dropWhile (· == '0') = text.dropWhile (· == '0') := by
  induction k with
  | zero => rfl
  | succ k ih =>
    rw [List.replicate_succ, List.cons_append, List.dropWhile_cons_of_pos rfl, ih]

/-- Without the zeros in front, small digits of one value are the same. -/
theorem dropWhile_eq_of_value?_eq {a b : List Char} {n : Nat} (ha : IsSmall a) (hb : IsSmall b)
    (hva : value? a = some n) (hvb : value? b = some n) :
    a.dropWhile (· == '0') = b.dropWhile (· == '0') := by
  rcases Nat.le_total b.length a.length with hle | hle
  · rw [eq_replicate_append_of_value?_eq hle ha hb hva hvb, dropWhile_replicate_append]
  · rw [eq_replicate_append_of_value?_eq hle hb ha hvb hva, dropWhile_replicate_append]

/-- Zeros dropped from the front did not count. -/
theorem value?_dropWhile_zero (digits : List Char) :
    value? (digits.dropWhile (· == '0')) = value? digits := by
  induction digits with
  | nil => rfl
  | cons c rest ih =>
    by_cases hzero : c = '0'
    · subst hzero
      rw [List.dropWhile_cons_of_pos rfl, ih]
      exact (value?_replicate_append 1 rest).symm
    · rw [List.dropWhile_cons_of_neg (by simpa using hzero)]

/-- Only the digits of zero are all dropped. -/
theorem dropWhile_zero_eq_nil_iff {digits : List Char} {n : Nat} (h : value? digits = some n) :
    digits.dropWhile (· == '0') = [] ↔ n = 0 := by
  constructor
  · intro hnil
    rw [← value?_dropWhile_zero, hnil] at h
    exact (Option.some.inj h).symm
  · rintro rfl
    have hzeros := dropWhile_replicate_append digits.length []
    rwa [List.append_nil, ← value?_eq_zero_iff.mp h] at hzeros

end HexWord

end OracleIndexer.Text
