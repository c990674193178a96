set_option autoImplicit false

/-!
# Blanks

Two sets of blank characters, and trimming.  The wide set is the one that text fields are trimmed
by; the narrow one holds the six ASCII blanks that may stand around a number or between byte pairs.
-/

namespace OracleIndexer.Text

/-- The six ASCII blanks: tab, line feed, line tabulation, form feed, carriage return, space. -/
def isAsciiBlank (c : Char) : Bool :=
  decide (9 ≤ c.toNat ∧ c.toNat ≤ 13) || c.toNat == 32

/-- A blank of any script, the four ASCII separators included. -/
def isBlank (c : Char) : Bool :=
  isAsciiBlank c || decide (0x1C ≤ c.toNat ∧ c.toNat ≤ 0x1F) || c.toNat == 0x85
    || c.toNat == 0xA0 || c.toNat == 0x1680 || decide (0x2000 ≤ c.toNat ∧ c.toNat ≤ 0x200A)
    || c.toNat == 0x2028 || c.toNat == 0x2029 || c.toNat == 0x202F || c.toNat == 0x205F
    || c.toNat == 0x3000

theorem isBlank_of_isAsciiBlank {c : Char} (h : isAsciiBlank c = true) : isBlank c = true := by
  simp [isBlank, h]

/-- Drops the characters of a class from both ends. -/
def trimBy (drop : Char → Bool) (text : List Char) : List Char :=
  ((text.dropWhile drop).reverse.dropWhile drop).reverse

/-- Drops blanks from both ends. -/
def trim (text : List Char) : List Char := trimBy isBlank text

/-- Text whose two ends are kept is not changed by trimming. -/
theorem trimBy_eq_self {drop : Char → Bool} {text : List Char}
    (first : ∀ c ∈ text.head?, drop c = false) (last : ∀ c ∈ text.getLast?, drop c = false) :
    trimBy drop text = text := by
  have keep : ∀ l : List Char, (∀ c ∈ l.head?, drop c = false) → l.dropWhile drop = l := by
    intro l h
    cases l with
    | nil => rfl
    | cons c rest => simp [List.dropWhile, h c (by simp)]
  unfold trimBy
  rw [keep text first, keep text.reverse (by simpa [List.head?_reverse] using last),
    List.reverse_reverse]

end OracleIndexer.Text
