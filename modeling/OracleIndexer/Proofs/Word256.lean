import Mathlib.Data.Nat.Digits.Defs
import OracleIndexer.Proofs.Conversion
import OracleIndexer.Proofs.Text.HexWriting
import OracleIndexer.Word256
set_option autoImplicit false

/-!
# Words and their digits

Shifts and unions of words that stay in range, words made of two halves, and the texts that words
are read from and written as.  A hex word is read if hexadecimal digits stand behind at most one
marker; a word is written with the small digits of its value, sixty-four of them.
-/

namespace OracleIndexer

open Outcome (Skippable)
open Text (AllHex)
open Text.HexWord (value? digitsOf IsSmall)

/-! ## Markers -/

namespace Text.HexWord

/-- A text with the marker `0x` or `0X` in front. -/
def Marked (text : List Char) : Prop :=
  ∃ marker rest, (marker = 'x' ∨ marker = 'X') ∧ text = '0' :: marker :: rest

theorem digitsOf_marked {marker : Char} (h : marker = 'x' ∨ marker = 'X') (rest : List Char) :
    digitsOf ('0' :: marker :: rest) = rest := by
  rcases h with rfl | rfl <;> rfl

theorem digitsOf_of_not_marked {text : List Char} (h : ¬ Marked text) : digitsOf text = text := by
  rw [digitsOf.eq_def]
  split
  · exact absurd ⟨'x', _, .inl rfl, rfl⟩ h
  · exact absurd ⟨'X', _, .inr rfl, rfl⟩ h
  · rfl

/-- A marker is not made of digits. -/
theorem not_marked_of_allHex {text : List Char} (h : AllHex text) : ¬ Marked text := by
  rintro ⟨marker, rest, hmarker, rfl⟩
  have hdigit := h marker (by simp)
  rcases hmarker with rfl | rfl <;> exact absurd hdigit (by decide)

/-- Without a marker all characters of a hex word are its digits. -/
theorem digitsOf_of_allHex {text : List Char} (h : AllHex text) : digitsOf text = text :=
  digitsOf_of_not_marked (not_marked_of_allHex h)

end Text.HexWord

/-! ## Reading -/

/-- A text whose digits, the marker aside, are hexadecimal and not too many is read as their
value. -/
theorem parseHex_of_digitsOf {s : String} {digits : List Char} {limit : Int} {n : Nat}
    (hdigits : digitsOf s.toList = digits) (hne : digits ≠ [])
    (hlimit : (digits.length : Int) ≤ limit) (hn : value? digits = some n) :
    parseHex (some limit) s = .ok n := by
  have hempty : digits.isEmpty = false := by simpa using hne
  have hwide : ¬ limit < digits.length := by omega
  simp [parseHex, hdigits, hn, hempty, hwide]

/-- Plain hexadecimal digits read as a hex word that is wide enough for them. -/
theorem parseHex_of_allHex {text : List Char} {limit : Int} {n : Nat} (hne : text ≠ [])
    (h : AllHex text) (hlimit : (text.length : Int) ≤ limit) (hn : value? text = some n) :
    parseHex (some limit) (String.ofList text) = .ok n := by
  refine parseHex_of_digitsOf ?_ hne hlimit hn
  rw [String.toList_ofList, Text.HexWord.digitsOf_of_allHex h]

theorem parseHex_of_marked {marker : Char} {digits : List Char} {limit : Int} {n : Nat}
    (hmarker : marker = 'x' ∨ marker = 'X') (hne : digits ≠ [])
    (hlimit : (digits.length : Int) ≤ limit) (hn : value? digits = some n) :
    parseHex (some limit) (String.ofList ('0' :: marker :: digits)) = .ok n := by
  refine parseHex_of_digitsOf ?_ hne hlimit hn
  rw [String.toList_ofList, Text.HexWord.digitsOf_marked hmarker]

/-- What is read as a hex word is made of digits behind the marker. -/
theorem allHex_of_parseHex {limit : Option Int} {s : String} {n : Nat}
    (h : parseHex limit s = .ok n) : AllHex (digitsOf s.toList) := by
  cases hvalue : value? (digitsOf s.toList) with
  | none => simp [parseHex, hvalue] at h
  | some m => exact Text.HexWord.allHex_of_value? hvalue

theorem parseHex_of_not_allHex {limit : Option Int} {s : String}
    (h : ¬ AllHex (digitsOf s.toList)) : parseHex limit s = .error (.notHexWord s) := by
  cases hvalue : value? (digitsOf s.toList) with
  | none => simp [parseHex, hvalue]
  | some m => exact absurd (Text.HexWord.allHex_of_value? hvalue) h

/-- A refusal of the codec concerns one event alone, whether it can be worded or not. -/
theorem CodecFault.skippable_raise {α : Type} (result : Except CodecFault α) :
    Skippable (raise result) :=
  .mapError fun _ => Fault.isSkippable_raised rfl

theorem CodecFault.raise_of_isWritable {α : Type} {result : Except CodecFault α}
    (h : ∀ fault, result = .error fault → fault.isWritable = true) :
    raise result = result.mapError .codec := by
  cases result with
  | ok a => rfl
  | error fault => exact congrArg Except.error (Fault.raised_of_isWritable (h fault rfl))

theorem CodecFault.raise_eq_ok_iff {α : Type} {result : Except CodecFault α} {a : α} :
    raise result = .ok a ↔ result = .ok a := Outcome.mapError_eq_ok_iff

namespace Word256

/-- A word is as wide as sixty-four hexadecimal digits. -/
theorem width_eq : (1 <<< 256 : Nat) = 16 ^ 64 := by decide

theorem lt_iff {n : Nat} : n < 1 <<< 256 ↔ n < 2 ^ 256 := by
  rw [Nat.shiftLeft_eq, Nat.one_mul]

theorem ofHex_of_allHex {text : List Char} (hne : text ≠ []) (h : AllHex text)
    (hlimit : text.length ≤ 64) :
    ∃ w : Word256, value? text = some w.toNat ∧ ofHex (String.ofList text) = .ok w := by
  obtain ⟨n, hn, hlt⟩ := Text.HexWord.value?_eq_some_of_allHex h
  have hbound : n < 1 <<< 256 := by
    have hpow : 16 ^ text.length ≤ 16 ^ 64 := Nat.pow_le_pow_right (by decide) hlimit
    rw [width_eq]
    omega
  refine ⟨⟨n, hbound⟩, hn, ?_⟩
  rw [ofHex, parseHex_of_allHex hne h (by omega) hn, Outcome.bind_ok, inRange_natCast hbound]

/-! ## Writing -/

theorem length_digits (w : Word256) : w.digits.length = 64 := by
  have hlt : w.toNat < 16 ^ 64 := width_eq ▸ w.isLt
  have hle := Nat.toDigits_length 16 w.toNat 64 (by decide) hlt
  rw [digits, Text.Numeral.paddedHex, List.length_leftpad]
  exact Nat.max_eq_left hle

theorem value?_digits (w : Word256) : value? w.digits = some w.toNat := by
  rw [digits, Text.Numeral.paddedHex, List.leftpad, Text.HexWord.value?_replicate_append]
  exact Text.HexWord.value?_toDigits w.toNat

theorem isSmall_digits (w : Word256) : IsSmall w.digits := by
  rw [digits, Text.Numeral.paddedHex, List.leftpad]
  exact Text.HexWord.isSmall_append (Text.HexWord.isSmall_replicate_zero _)
    (Text.HexWord.isSmall_toDigits w.toNat)

/-- A word is written with the digits that it is read from, in small letters. -/
theorem digits_eq_of_value? {w : Word256} {text : List Char} (hlength : text.length = 64)
    (h : value? text = some w.toNat) : w.digits = text.map Char.toLower := by
  apply Text.HexWord.eq_of_value?_eq
  · rw [length_digits, List.length_map, hlength]
  · exact isSmall_digits w
  · exact Text.HexWord.isSmall_map_toLower text
  · exact value?_digits w
  · rw [Text.HexWord.value?_map_toLower, h]

/-! ## Shifts and unions -/

theorem shiftLeft_natCast (w : Word256) (places : Nat) :
    w.shiftLeft places
      = if storagePlaces ≤ places ∧ w.toNat ≠ 0 then .error .tooLarge
        else ofInt ((w.toNat * 2 ^ places : Nat) : Int) := by
  rw [← Nat.shiftLeft_eq]
  rfl

/-- A product that is in range can be stored. -/
theorem not_beyond_storage {w : Word256} {places : Nat} (h : w.toNat * 2 ^ places < 2 ^ 256) :
    ¬ (storagePlaces ≤ places ∧ w.toNat ≠ 0) := by
  rintro ⟨hplaces, hnonzero⟩
  have hstorage : 256 ≤ storagePlaces := by decide
  have hpow : 2 ^ 256 ≤ 2 ^ places := Nat.pow_le_pow_right (by decide) (hstorage.trans hplaces)
  have hproduct : 2 ^ places ≤ w.toNat * 2 ^ places :=
    Nat.le_mul_of_pos_left _ (Nat.pos_of_ne_zero hnonzero)
  exact absurd h (Nat.not_lt.mpr (hpow.trans hproduct))

/-- A shift towards the high end is a product, if that is in range. -/
theorem shiftLeft_eq_ok {w : Word256} {places : Nat} (h : w.toNat * 2 ^ places < 2 ^ 256) :
    w.shiftLeft places = .ok ⟨w.toNat * 2 ^ places, lt_iff.mpr h⟩ := by
  rw [shiftLeft_natCast, if_neg (not_beyond_storage h), ofInt_natCast (lt_iff.mpr h)]

/-- The bits of a multiple of a power of two, and those of a number below it, make the sum. -/
theorem or_eq_ok {w : Word256} {upper lower places : Nat} (hw : w.toNat = upper * 2 ^ places)
    (hlower : lower < 2 ^ places) (h : upper * 2 ^ places + lower < 2 ^ 256) :
    w.or lower = .ok ⟨upper * 2 ^ places + lower, lt_iff.mpr h⟩ := by
  have hrange : lower < 1 <<< 256 := lt_iff.mpr (by omega)
  have hor : w.toNat ||| lower = upper * 2 ^ places + lower := by
    rw [hw, Nat.mul_comm, ← Nat.two_pow_add_eq_or_of_lt hlower]
  rw [Word256.or, ofInt_natCast hrange, Outcome.bind_ok, hor, ofInt_natCast (lt_iff.mpr h)]

/-! ## Words of two halves -/

theorem inRange_eq_ok_iff {n : Int} {w : Word256} : inRange n = .ok w ↔ n = w.toNat := by
  constructor
  · intro h
    unfold inRange at h
    split at h
    · have hvalue : n.toNat = w.toNat := congrArg toNat (Except.ok.inj h)
      omega
    · contradiction
  · rintro rfl
    exact inRange_natCast w.isLt

theorem ofInt_eq_ok_iff {n : Int} {w : Word256} : ofInt n = .ok w ↔ n = w.toNat := by
  rw [ofInt, CodecFault.raise_eq_ok_iff, inRange_eq_ok_iff]

/-- Two numbers make a word exactly if both are in the range of a half. -/
theorem ofHalves_eq_ok_iff {low high : Int} {w : Word256} :
    ofHalves low high = .ok w ↔
      ∃ lo hi : Nat, low = lo ∧ high = hi ∧ lo < 2 ^ 128 ∧ hi < 2 ^ 128 ∧
        w.toNat = lo + 2 ^ 128 * hi := by
  have hhalf : (1 <<< 128 : Nat) = 2 ^ 128 := by decide
  unfold ofHalves
  rw [hhalf]
  constructor
  · intro h
    split at h
    · contradiction
    · split at h
      · contradiction
      · have hword := ofInt_eq_ok_iff.mp h
        refine ⟨low.toNat, high.toNat, ?_, ?_, ?_, ?_, ?_⟩ <;> omega
  · rintro ⟨lo, hi, rfl, rfl, hlo, hhi, hword⟩
    rw [if_neg (by omega), if_neg (by omega), ofInt_eq_ok_iff]
    omega

/-- Operands make a word exactly if both have a number in the range of a half. -/
theorem compose_eq_ok_iff {low high : Operand} {w : Word256} :
    compose low high = .ok w ↔
      ∃ lo hi : Nat, low.number = .ok (lo : Int) ∧ high.number = .ok (hi : Int) ∧ lo < 2 ^ 128 ∧
        hi < 2 ^ 128 ∧ w.toNat = lo + 2 ^ 128 * hi := by
  simp only [compose, Outcome.bind_eq_ok_iff, Outcome.mapError_eq_ok_iff, ofHalves_eq_ok_iff]
  constructor
  · rintro ⟨_, hlow, _, hhigh, lo, hi, rfl, rfl, hrest⟩
    exact ⟨lo, hi, hlow, hhigh, hrest⟩
  · rintro ⟨lo, hi, hlow, hhigh, hrest⟩
    exact ⟨lo, hlow, hi, hhigh, lo, hi, rfl, rfl, hrest⟩

/-! ## Faults -/

theorem skippable_ofInt (n : Int) : Skippable (ofInt n) := CodecFault.skippable_raise _

theorem skippable_ofHalves (low high : Int) : Skippable (ofHalves low high) := by
  unfold ofHalves
  split
  · exact .error (Fault.isSkippable_raised rfl)
  · split
    · exact .error (Fault.isSkippable_raised rfl)
    · exact skippable_ofInt _

theorem skippable_compose (low high : Operand) : Skippable (compose low high) :=
  Outcome.Within.bind (.mapError fun _ => rfl) fun lo =>
    Outcome.Within.bind (.mapError fun _ => rfl) fun hi => skippable_ofHalves lo hi

/-! ## Decimal texts -/

/-- A word is known by its decimal text. -/
theorem toNat_of_decimal {w : Word256} {n : Nat} (h : w.decimal = toString n) : w.toNat = n := by
  have hdigits : Nat.toDigits 10 w.toNat = Nat.toDigits 10 n := by
    have hlists := congrArg String.toList h
    simpa [decimal, Nat.toString_eq_repr, Nat.repr_eq_ofList_toDigits] using hlists
  rw [← Nat.ofDigitChars_ten_toDigits (n := w.toNat), hdigits, Nat.ofDigitChars_ten_toDigits]

end Word256

end OracleIndexer
