set_option autoImplicit false

/-!
# Surrogate halves

The code points U+D800 to U+DFFF are halves of pairs and no characters.  An escape may name one
alone, but no text holds it.
-/

namespace OracleIndexer.Text

/-- Whether a code point is half of a pair. -/
def isHalf (code : Nat) : Bool := decide (0xD800 ≤ code ∧ code < 0xE000)

/-- The character of a code point below U+110000; half of a pair has none. -/
def charOf? (code : Nat) : Option Char := if isHalf code then none else some (Char.ofNat code)

theorem isHalf_toNat (c : Char) : isHalf c.toNat = false := by
  have valid : c.toNat < 0xD800 ∨ (0xDFFF < c.toNat ∧ c.toNat < 0x110000) := c.valid
  refine decide_eq_false fun half => ?_
  omega

/-- A character is that of its code point. -/
theorem charOf?_toNat (c : Char) : charOf? c.toNat = some c := by
  rw [charOf?, isHalf_toNat, Char.ofNat_toNat]
  rfl

end OracleIndexer.Text
