import OracleIndexer.Proofs.Text.HexDigits
import OracleIndexer.Text.LowerCase
set_option autoImplicit false

/-!
# What lower case leaves foreign

Outside ASCII no letter has a small form that is a hexadecimal digit, the letter of a marker or a
blank.  So a text that consists of such characters in lower case is ASCII as it stands.
-/

namespace OracleIndexer.Text

/-! ## Numeric characters -/

/-- The characters of marked digits with blanks among them. -/
def isNumeric (c : Char) : Bool := isHexDigit c || isAsciiBlank c || c == 'x'

theorem isNumeric_iff {c : Char} :
    isNumeric c = true ↔ (isHexDigit c = true ∨ isAsciiBlank c = true) ∨ c = 'x' := by
  simp [isNumeric]

/-- Numeric characters are ASCII. -/
theorem lt_of_isNumeric {c : Char} (h : isNumeric c = true) : c.toNat < 127 := by
  rcases isNumeric_iff.mp h with (hdigit | hblank) | rfl
  · exact (printed_of_isHexDigit hdigit).1
  · simp only [isAsciiBlank, Bool.or_eq_true, decide_eq_true_eq, beq_iff_eq] at hblank
    omega
  · decide

/-! ## Small letters -/

/-- The small letters of a run of capitals lie outside ASCII, but for that of the kelvin sign. -/
theorem capitals_range : ∀ run ∈ capitals, 128 ≤ (run.1 : Int) + run.2.2.2 ∨
    (run.1 = run.2.1 ∧ (run.1 : Int) + run.2.2.2 = 'k'.toNat) := by
  decide +kernel

/-- The character of a valid code point has it. -/
theorem toNat_ofNat_of_valid {n : Nat} (h : n.isValidChar) : (Char.ofNat n).toNat = n := by
  rw [Char.ofNat, dif_pos h]
  rfl

theorem isNumeric_ofNat {n : Nat} (h : 128 ≤ n) : isNumeric (Char.ofNat n) = false := by
  by_cases hvalid : n.isValidChar
  · by_contra hnot
    have hascii := lt_of_isNumeric (Bool.eq_true_of_not_eq_false hnot)
    rw [toNat_ofNat_of_valid hvalid] at hascii
    omega
  · -- the null character stands for any other number
    rw [Char.ofNat, dif_neg hvalid]
    rfl

theorem isNumeric_smallLetter {c : Char} (h : 128 ≤ c.toNat) :
    isNumeric (smallLetter c) = false := by
  unfold smallLetter
  split
  · rename_i first last step distance hfind
    have hrange := List.find?_some hfind
    simp only [Bool.and_eq_true, decide_eq_true_eq] at hrange
    obtain ⟨⟨hfirst, hlast⟩, _⟩ := hrange
    rcases capitals_range _ (List.mem_of_find?_eq_some hfind) with hforeign | ⟨hsame, hkelvin⟩
    · simp only at hforeign
      exact isNumeric_ofNat (by omega)
    · simp only at hsame hkelvin
      have hnumber : ((c.toNat : Int) + distance).toNat = 'k'.toNat := by omega
      rw [hnumber]
      decide
  · by_contra hnot
    have hascii := lt_of_isNumeric (Bool.eq_true_of_not_eq_false hnot)
    omega

/-- A character outside ASCII leaves a foreign one in lower case. -/
theorem exists_foreign_of_lowerChar (afterCased : Bool) {c : Char} (rest : List Char)
    (h : 128 ≤ c.toNat) : ∃ d ∈ lowerChar afterCased c rest, isNumeric d = false := by
  unfold lowerChar
  rw [if_neg (by omega)]
  split
  · exact ⟨'i', by simp, by decide⟩
  · split
    · refine ⟨_, List.mem_singleton_self _, ?_⟩
      split <;> decide
    · exact ⟨_, List.mem_singleton_self _, isNumeric_smallLetter h⟩

/-- A text with numeric characters alone in lower case is ASCII. -/
theorem lt_of_lowerFrom {text : List Char} {afterCased : Bool}
    (h : ∀ d ∈ lowerFrom afterCased text, isNumeric d = true) : ∀ c ∈ text, c.toNat < 128 := by
  induction text generalizing afterCased with
  | nil => simp
  | cons c rest ih =>
    rw [lowerFrom] at h
    refine List.forall_mem_cons.mpr ⟨?_, ih fun d hd => h d (List.mem_append_right _ hd)⟩
    by_contra hforeign
    obtain ⟨d, hd, hnot⟩ := exists_foreign_of_lowerChar afterCased rest (Nat.le_of_not_lt hforeign)
    rw [h d (List.mem_append_left _ hd)] at hnot
    cases hnot

theorem lower_eq_map_of_numeric {text : List Char} (h : ∀ d ∈ lower text, isNumeric d = true) :
    lower text = text.map Char.toLower := lower_of_ascii (lt_of_lowerFrom h)

end OracleIndexer.Text
