import OracleIndexer.Proofs.Text.HexDigits
set_option autoImplicit false

/-!
# The case of letters

Letters differ from their small forms by their case alone, so a text is known by its small form and
the cases of its letters.
-/

namespace OracleIndexer.Text

/-- The cases of the letters of a text in order, true for a capital. -/
def letterCases (text : List Char) : List Bool := (text.filter Char.isAlpha).map Char.isUpper

theorem isUpper_iff {c : Char} : c.isUpper = true ↔ 65 ≤ c.toNat ∧ c.toNat ≤ 90 :=
  decide_eq_true_iff

theorem isLower_iff {c : Char} : c.isLower = true ↔ 97 ≤ c.toNat ∧ c.toNat ≤ 122 :=
  Bool.and_eq_true_iff.trans (and_congr decide_eq_true_iff decide_eq_true_iff)

theorem isAlpha_iff {c : Char} :
    c.isAlpha = true ↔ (65 ≤ c.toNat ∧ c.toNat ≤ 90) ∨ (97 ≤ c.toNat ∧ c.toNat ≤ 122) :=
  Bool.or_eq_true_iff.trans (or_congr isUpper_iff isLower_iff)

theorem isUpper_eq_false_of_not_alpha {c : Char} (h : ¬ c.isAlpha = true) : c.isUpper = false := by
  apply Bool.eq_false_of_not_eq_true
  intro hupper
  exact h (isAlpha_iff.mpr (.inl (isUpper_iff.mp hupper)))

section

variable {c d : Char}

/-- Characters with one small form are both letters or both none. -/
theorem isAlpha_eq_of_toLower (h : c.toLower = d.toLower) : c.isAlpha = d.isAlpha := by
  rw [← Char.toNat_inj, toNat_toLower, toNat_toLower] at h
  rw [Bool.eq_iff_iff, isAlpha_iff, isAlpha_iff]
  split at h <;> split at h <;> omega

/-- Characters with one small form are the same if both are capitals or neither is. -/
theorem eq_of_toLower (h : c.toLower = d.toLower) (hcase : c.isUpper = d.isUpper) : c = d := by
  rw [Bool.eq_iff_iff, isUpper_iff, isUpper_iff] at hcase
  rw [← Char.toNat_inj, toNat_toLower, toNat_toLower] at h
  rw [← Char.toNat_inj]
  split at h <;> split at h <;> omega

end

theorem letterCases_cons_of_alpha {c : Char} (h : c.isAlpha = true) (rest : List Char) :
    letterCases (c :: rest) = c.isUpper :: letterCases rest := by
  rw [letterCases, List.filter_cons_of_pos h, List.map_cons, letterCases]

theorem letterCases_cons_of_not_alpha {c : Char} (h : ¬ c.isAlpha = true) (rest : List Char) :
    letterCases (c :: rest) = letterCases rest := by
  rw [letterCases, List.filter_cons_of_neg h, letterCases]

/-- A text is known by its small form and the cases of its letters. -/
theorem eq_of_letterCases {a b : List Char} (h : a.map Char.toLower = b.map Char.toLower)
    (hcases : letterCases a = letterCases b) : a = b := by
  induction a generalizing b with
  | nil => exact (List.map_eq_nil_iff.mp h.symm).symm
  | cons c rest ih =>
    cases b with
    | nil => cases h
    | cons d more =>
      obtain ⟨hfirst, hrest⟩ := List.cons.inj h
      have halpha := isAlpha_eq_of_toLower hfirst
      by_cases hc : c.isAlpha = true
      · have hd : d.isAlpha = true := halpha ▸ hc
        rw [letterCases_cons_of_alpha hc, letterCases_cons_of_alpha hd] at hcases
        obtain ⟨hcase, hmore⟩ := List.cons.inj hcases
        rw [eq_of_toLower hfirst hcase, ih hrest hmore]
      · have hd : ¬ d.isAlpha = true := halpha ▸ hc
        have hcase : c.isUpper = d.isUpper := by
          rw [isUpper_eq_false_of_not_alpha hc, isUpper_eq_false_of_not_alpha hd]
        rw [letterCases_cons_of_not_alpha hc, letterCases_cons_of_not_alpha hd] at hcases
        rw [eq_of_toLower hfirst hcase, ih hrest hcases]

/-- A zero is no letter. -/
theorem letterCases_dropWhile_zero (text : List Char) :
    letterCases (text.dropWhile (· == '0')) = letterCases text := by
  induction text with
  | nil => rfl
  | cons c rest ih =>
    by_cases hzero : c = '0'
    · subst hzero
      rw [List.dropWhile_cons_of_pos rfl, ih, letterCases_cons_of_not_alpha (by decide)]
    · rw [List.dropWhile_cons_of_neg (by simpa using hzero)]

end OracleIndexer.Text
