import Mathlib.Data.List.TakeWhile
import OracleIndexer.Proofs.Felt.Writing
set_option autoImplicit false

/-!
# Bytes in hexadecimal digits

A byte string is written with two digits for each byte.  A felt that holds the bytes as a number may
have lost zeros in front, or carry more of them; its digits are those of the bytes exactly if they
are as many.
-/

namespace OracleIndexer

namespace Text.Numeral

/-- A byte has two digits, one for each half. -/
theorem paddedHex_two {n : Nat} (h : n < 256) :
    paddedHex 2 n = [(n / 16).digitChar, (n % 16).digitChar] := by
  rw [paddedHex, hex]
  by_cases hsmall : n < 16
  · rw [Nat.toDigits_of_lt_base hsmall, Nat.div_eq_of_lt hsmall, Nat.mod_eq_of_lt hsmall]
    rfl
  · rw [Nat.toDigits_of_base_le (by decide) (by omega), Nat.toDigits_of_lt_base (by omega)]
    rfl

end Text.Numeral

namespace Felt

open Text.HexWord (value? IsSmall)

/-- The digits of bytes, two for each. -/
def hexText (bytes : List UInt8) : List Char :=
  bytes.flatMap fun byte => Text.Numeral.paddedHex 2 byte.toNat

/-- The number that bytes make up, the most significant first. -/
def ofBytes (bytes : List UInt8) : Nat := bigEndian (bytes.map UInt8.toNat)

/-! ## The digits of bytes -/

theorem hexText_cons (byte : UInt8) (rest : List UInt8) :
    hexText (byte :: rest)
      = (byte.toNat / 16).digitChar :: (byte.toNat % 16).digitChar :: hexText rest := by
  rw [hexText, List.flatMap_cons, Text.Numeral.paddedHex_two byte.toNat_lt]
  rfl

theorem hexText_append (front back : List UInt8) :
    hexText (front ++ back) = hexText front ++ hexText back := by
  simp [hexText]

theorem length_hexText (bytes : List UInt8) : (hexText bytes).length = 2 * bytes.length := by
  induction bytes with
  | nil => rfl
  | cons byte rest ih =>
    rw [hexText_cons, List.length_cons, List.length_cons, List.length_cons, ih]
    omega

theorem isSmall_hexText (bytes : List UInt8) : IsSmall (hexText bytes) := by
  induction bytes with
  | nil => rfl
  | cons byte rest ih =>
    have hbyte : byte.toNat < 256 := byte.toNat_lt
    rw [hexText_cons, Text.HexWord.isSmall_cons, Text.HexWord.isSmall_cons]
    exact ⟨Text.toLower_digitChar (by omega), Text.toLower_digitChar (by omega), ih⟩

theorem ofBytes_cons (byte : UInt8) (rest : List UInt8) :
    ofBytes (byte :: rest) = byte.toNat * 256 ^ rest.length + ofBytes rest := by
  rw [ofBytes, List.map_cons, bigEndian_cons, List.length_map, ofBytes]

/-- The digits of bytes have the value that the bytes make up. -/
theorem value?_hexText (bytes : List UInt8) : value? (hexText bytes) = some (ofBytes bytes) := by
  induction bytes with
  | nil => rfl
  | cons byte rest ih =>
    have hbyte : byte.toNat < 256 := byte.toNat_lt
    have hhalves : byte.toNat / 16 * 16 + byte.toNat % 16 = byte.toNat := by omega
    have hpow : 16 ^ (2 * rest.length) = 256 ^ rest.length := pow_mul 16 2 rest.length
    rw [hexText_cons, Text.HexWord.value?_cons, Text.HexWord.value?_cons,
      Text.hexValue?_digitChar (by omega), Text.hexValue?_digitChar (by omega), ih,
      List.length_cons, length_hexText]
    simp only [Option.bind_some, Option.map_some, Option.some.injEq]
    calc byte.toNat / 16 * 16 ^ (2 * rest.length + 1)
          + (byte.toNat % 16 * 16 ^ (2 * rest.length) + ofBytes rest)
        = (byte.toNat / 16 * 16 + byte.toNat % 16) * 16 ^ (2 * rest.length) + ofBytes rest := by
          ring
      _ = ofBytes (byte :: rest) := by rw [hhalves, hpow, ofBytes_cons]

/-- Only a byte below sixteen has a zero for its first digit. -/
theorem dropWhile_hexText_eq_self_iff (bytes : List UInt8) :
    (hexText bytes).dropWhile (· == '0') = hexText bytes ↔
      ∀ byte ∈ bytes.head?, 16 ≤ byte.toNat := by
  rw [List.dropWhile_eq_self_iff]
  cases bytes with
  | nil => simp [hexText]
  | cons byte rest =>
    have hbyte : byte.toNat < 256 := byte.toNat_lt
    have hzero : (byte.toNat / 16).digitChar = '0' ↔ byte.toNat < 16 := by
      rw [Nat.digitChar_eq_zero]
      omega
    simp [hexText_cons, hzero]

/-! ## Felts that hold bytes -/

theorem lowered_append (front back : List Char) :
    lowered (front ++ back) = lowered front ++ lowered back :=
  List.map_append

theorem isSmall_lowered (text : List Char) : IsSmall (lowered text) :=
  Text.HexWord.isSmall_map_toLower text

theorem lowered_dropWhile_zero (text : List Char) :
    lowered (text.dropWhile (· == '0')) = (lowered text).dropWhile (· == '0') := by
  have hzero : (fun c : Char => c == '0') ∘ Char.toLower = fun c => c == '0' := by
    funext c
    rw [Function.comp, Bool.eq_iff_iff, beq_iff_eq, beq_iff_eq, ← Char.toNat_inj, ← Char.toNat_inj,
      Text.toNat_toLower, show '0'.toNat = 48 from rfl]
    split <;> omega
  rw [lowered, lowered, List.dropWhile_map, hzero]

section

variable {digits : List Char} {bytes : List UInt8}

/-- The digits of a felt that holds bytes are those of the bytes exactly if they are as many. -/
theorem lowered_eq_hexText_iff (h : value? digits = some (ofBytes bytes)) :
    lowered digits = hexText bytes ↔ digits.length = 2 * bytes.length := by
  constructor
  · intro heq
    rw [← length_hexText, ← heq, lowered, List.length_map]
  · intro hlength
    refine Text.HexWord.eq_of_value?_eq ?_ (isSmall_lowered digits) (isSmall_hexText bytes)
      ((Text.HexWord.value?_map_toLower digits).trans h) (value?_hexText bytes)
    rw [lowered, List.length_map, hlength, length_hexText]

/-- Without the zeros in front, the digits of a felt that holds bytes are those of the bytes. -/
theorem lowered_dropWhile_of_value? (h : value? digits = some (ofBytes bytes)) :
    lowered (digits.dropWhile (· == '0')) = (hexText bytes).dropWhile (· == '0') := by
  rw [lowered_dropWhile_zero]
  exact Text.HexWord.dropWhile_eq_of_value?_eq (isSmall_lowered digits) (isSmall_hexText bytes)
    ((Text.HexWord.value?_map_toLower digits).trans h) (value?_hexText bytes)

end

end Felt

end OracleIndexer
