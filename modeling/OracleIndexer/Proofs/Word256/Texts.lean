import OracleIndexer.Proofs.Text.Decimal
import OracleIndexer.Proofs.Word256
set_option autoImplicit false

/-!
# Texts of words

A word is read from one to sixty-four hexadecimal digits, bare or behind a marker, and from nothing
else.  It is written with the small forms of these digits behind as many zeros as make sixty-four,
and in decimal without zeros in front.  What is written is read back, so words, their hexadecimal
texts and their decimal texts are told apart alike.
-/

namespace OracleIndexer.Word256

open Text (AllHex IsDecimal)
open Text.HexWord (value? digitsOf Marked IsSmall)

/-! ## Reading -/

/-- Hexadecimal digits that a word has room for. -/
structure Fits (digits : List Char) : Prop where
  hex : AllHex digits
  nonempty : digits ≠ []
  width : digits.length ≤ 64

/-- The hexadecimal texts of words, by their digits. -/
inductive HexText : List Char → List Char → Prop
  | bare {digits : List Char} (fits : Fits digits) : HexText digits digits
  | marked {marker : Char} {digits : List Char} (marker_eq : marker = 'x' ∨ marker = 'X')
      (fits : Fits digits) : HexText ('0' :: marker :: digits) digits

/-- The digits of a text are what is left of it without the marker. -/
theorem hexText_iff {text digits : List Char} :
    HexText text digits ↔ digitsOf text = digits ∧ Fits digits := by
  constructor
  · intro h
    cases h with
    | bare fits => exact ⟨Text.HexWord.digitsOf_of_allHex fits.hex, fits⟩
    | marked marker_eq fits => exact ⟨Text.HexWord.digitsOf_marked marker_eq digits, fits⟩
  · rintro ⟨rfl, hfits⟩
    by_cases hmarked : Marked text
    · obtain ⟨marker, rest, hmarker, rfl⟩ := hmarked
      rw [Text.HexWord.digitsOf_marked hmarker] at hfits ⊢
      exact .marked hmarker hfits
    · rw [Text.HexWord.digitsOf_of_not_marked hmarked] at hfits ⊢
      exact .bare hfits

/-- Digits that a word has room for make a word. -/
theorem exists_value?_of_fits {digits : List Char} (h : Fits digits) :
    ∃ w : Word256, value? digits = some w.toNat := by
  obtain ⟨w, hw, _⟩ := ofHex_of_allHex h.nonempty h.hex h.width
  exact ⟨w, hw⟩

theorem ofHex_of_hexText {s : String} {digits : List Char} {w : Word256}
    (htext : HexText s.toList digits) (hvalue : value? digits = some w.toNat) :
    ofHex s = .ok w := by
  obtain ⟨hdigits, hfits⟩ := hexText_iff.mp htext
  have hparse : parseHex (some 64) s = .ok w.toNat :=
    parseHex_of_digitsOf hdigits hfits.nonempty (by exact_mod_cast hfits.width) hvalue
  rw [ofHex, hparse, Outcome.bind_ok, inRange_natCast w.isLt]

/-- A text that is no hexadecimal text of a word is refused as malformed: for its characters, or for
their number. -/
theorem ofHex_of_not_hexText {s : String} (h : ∀ digits, ¬ HexText s.toList digits) :
    ofHex s = .error (.notHexWord s) ∨ ofHex s = .error (.wideHexWord 64 s) := by
  by_cases hhex : AllHex (digitsOf s.toList)
  · by_cases hne : digitsOf s.toList = []
    · refine .inl ?_
      rw [ofHex, parseHex, hne]
      rfl
    · have hwide : (64 : Int) < (digitsOf s.toList).length := by
        by_contra hnot
        exact h _ (hexText_iff.mpr ⟨rfl, hhex, hne, by omega⟩)
      obtain ⟨n, hn, _⟩ := Text.HexWord.value?_eq_some_of_allHex hhex
      refine .inr ?_
      simp [ofHex, parseHex, hn, hne, hwide]
  · refine .inl ?_
    rw [ofHex, parseHex_of_not_allHex hhex]
    rfl

/-- A word is read from the texts of its digits, and from no other. -/
theorem ofHex_eq_ok_iff {s : String} {w : Word256} :
    ofHex s = .ok w ↔ ∃ digits, HexText s.toList digits ∧ value? digits = some w.toNat := by
  constructor
  · intro h
    by_cases htext : ∃ digits, HexText s.toList digits
    · obtain ⟨digits, hdigits⟩ := htext
      obtain ⟨v, hv⟩ := exists_value?_of_fits (hexText_iff.mp hdigits).2
      rw [ofHex_of_hexText hdigits hv] at h
      obtain rfl := Except.ok.inj h
      exact ⟨digits, hdigits, hv⟩
    · rcases ofHex_of_not_hexText (not_exists.mp htext) with herror | herror <;>
        exact absurd (h.symm.trans herror) (by simp)
  · rintro ⟨digits, htext, hvalue⟩
    exact ofHex_of_hexText htext hvalue

/-! ## Writing -/

theorem fits_digits (w : Word256) : Fits w.digits where
  hex := Text.HexWord.allHex_of_value? w.value?_digits
  nonempty := List.ne_nil_of_length_pos (by rw [length_digits]; decide)
  width := Nat.le_of_eq w.length_digits

theorem ofHex_hex (w : Word256) : ofHex w.hex = .ok w := by
  refine ofHex_of_hexText ?_ w.value?_digits
  rw [hex, String.toList_ofList]
  exact .bare w.fits_digits

theorem ofHex_markedHex (w : Word256) : ofHex w.markedHex = .ok w := by
  refine ofHex_of_hexText ?_ w.value?_digits
  rw [markedHex, String.toList_ofList]
  exact .marked (.inl rfl) w.fits_digits

/-- A word is written with the digits that it is read from, small and padded with zeros. -/
theorem digits_eq_leftpad {digits : List Char} {w : Word256} (hfits : Fits digits)
    (hvalue : value? digits = some w.toNat) :
    w.digits = (digits.map Char.toLower).leftpad 64 '0' := by
  have hlength : ((digits.map Char.toLower).leftpad 64 '0').length = 64 := by
    rw [List.length_leftpad, List.length_map]
    exact Nat.max_eq_left hfits.width
  apply Text.HexWord.eq_of_value?_eq
  · rw [length_digits, hlength]
  · exact isSmall_digits w
  · exact Text.HexWord.isSmall_append (Text.HexWord.isSmall_replicate_zero _)
      (Text.HexWord.isSmall_map_toLower digits)
  · exact value?_digits w
  · rw [List.leftpad, Text.HexWord.value?_replicate_append, Text.HexWord.value?_map_toLower, hvalue]

theorem toList_decimal (w : Word256) : w.decimal.toList = Nat.toDigits 10 w.toNat := by
  rw [decimal, Nat.toString_eq_repr, Nat.toList_repr]

theorem decimal_eq_iff {w : Word256} {s : String} :
    s = w.decimal ↔ IsDecimal w.toNat s.toList := by
  rw [Text.isDecimal_iff, ← toList_decimal, String.toList_inj]

theorem hex_inj {v w : Word256} : v.hex = w.hex ↔ v = w := by
  constructor
  · intro h
    have hread := v.ofHex_hex
    rw [h, ofHex_hex] at hread
    exact (Except.ok.inj hread).symm
  · rintro rfl
    rfl

theorem decimal_inj {v w : Word256} : v.decimal = w.decimal ↔ v = w :=
  ⟨fun h => ext_toNat (toNat_of_decimal h), fun h => congrArg decimal h⟩

/-! ## Round trips -/

/-- How a text is read as a word, and how the word is written. -/
structure ReadsAsWord (s : String) : Prop where
  accepted : (∃ w, ofHex s = .ok w) ↔ ∃ digits, HexText s.toList digits
  refused : (∀ digits, ¬ HexText s.toList digits) →
    ofHex s = .error (.notHexWord s) ∨ ofHex s = .error (.wideHexWord 64 s)
  written : ∀ digits w, HexText s.toList digits → ofHex s = .ok w →
    value? digits = some w.toNat ∧
      w.hex = String.ofList ((digits.map Char.toLower).leftpad 64 '0') ∧
      w.markedHex = String.ofList ('0' :: 'x' :: (digits.map Char.toLower).leftpad 64 '0')

theorem readsAsWord (s : String) : ReadsAsWord s where
  accepted := by
    constructor
    · rintro ⟨w, hw⟩
      obtain ⟨digits, htext, _⟩ := ofHex_eq_ok_iff.mp hw
      exact ⟨digits, htext⟩
    · rintro ⟨digits, htext⟩
      obtain ⟨w, hw⟩ := exists_value?_of_fits (hexText_iff.mp htext).2
      exact ⟨w, ofHex_of_hexText htext hw⟩
  refused := ofHex_of_not_hexText
  written := by
    intro digits w htext hread
    obtain ⟨hdigits, hfits⟩ := hexText_iff.mp htext
    obtain ⟨others, hothers, hvalue⟩ := ofHex_eq_ok_iff.mp hread
    obtain rfl : digits = others := hdigits.symm.trans (hexText_iff.mp hothers).1
    rw [hex, markedHex, digits_eq_leftpad hfits hvalue]
    exact ⟨hvalue, rfl, rfl⟩

/-- A text is read as a word exactly if it is one to sixty-four hexadecimal digits behind at most
one marker, and is written back with these digits.  A word is read back from its hexadecimal texts,
and its decimal text is the one without zeros in front; two words are the same if either text is. -/
theorem texts_round_trip (s : String) (v w : Word256) :
    ReadsAsWord s ∧ ofHex v.hex = .ok v ∧ ofHex v.markedHex = .ok v ∧
      (s = v.decimal ↔ IsDecimal v.toNat s.toList) ∧
      (v = w ↔ v.hex = w.hex) ∧ (v.hex = w.hex ↔ v.decimal = w.decimal) := by
  refine ⟨readsAsWord s, v.ofHex_hex, v.ofHex_markedHex, decimal_eq_iff, hex_inj.symm, ?_⟩
  rw [hex_inj, decimal_inj]

end OracleIndexer.Word256
