import Mathlib.Data.Nat.Digits.Defs
import OracleIndexer.Proofs.Felt.Reading
import OracleIndexer.Proofs.Text.HexWriting
set_option autoImplicit false

/-!
# Writings of felts

A number can be written as a felt in many ways: in hexadecimal digits of either case behind a marker
of either case, with any number of zeros in front, in no more decimal digits than are converted, or
as itself.  All writings of a number read as the number, and as the same short string: the text of
its bytes, the control characters in front dropped.
-/

namespace OracleIndexer

namespace Text

open HexWord (value? valueFrom)

theorem trim_of_not_blank {text : List Char} (h : ∀ c ∈ text, isBlank c = false) :
    trim text = text := by
  apply trimBy_eq_self
  · intro c hc
    exact h c (List.mem_of_mem_head? hc)
  · intro c hc
    exact h c (List.mem_of_getLast? hc)

theorem trim_of_allHex {text : List Char} (h : AllHex text) : trim text = text :=
  trim_of_not_blank fun c hc => (printed_of_isHexDigit (h c hc)).2

theorem isHexDigit_of_isDecimalDigit {c : Char} (h : isDecimalDigit c = true) :
    isHexDigit c = true := by
  rw [isHexDigit_iff_toNat]
  exact .inl (by simpa [isDecimalDigit] using h)

theorem toLower_of_isDecimalDigit {c : Char} (h : isDecimalDigit c = true) : c.toLower = c := by
  have hrange : 48 ≤ c.toNat ∧ c.toNat ≤ 57 := by simpa [isDecimalDigit] using h
  apply Char.toNat_inj.mp
  rw [toNat_toLower, if_neg (by omega)]

/-- Plain decimal digits are a numeral of base ten, with the value that they have. -/
theorem Numeral.read_of_decimal {text : List Char} {n : Nat} (hne : text ≠ [])
    (h : valueFrom 10 0 text = some n) : read 10 text = some (n : Int) := by
  have hhex : AllHex text := fun c hc =>
    isHexDigit_of_isDecimalDigit (HexWord.isDecimalDigit_of_valueFrom h c hc)
  have hunderscore : '_' ∉ text := fun hmem => absurd (hhex '_' hmem) (by decide)
  have hmagnitude : magnitude 10 text = some n := by
    rw [← h, ← digits_eq_valueFrom hne hunderscore, magnitude.eq_def]
    split
    · rfl
    · rfl
  rw [read_eq_signed fun c hc => printed_of_isHexDigit (hhex c hc), signed.eq_def]
  split
  · exact absurd (hhex '-' (by simp)) (by decide)
  · exact absurd (hhex '+' (by simp)) (by decide)
  · rw [hmagnitude]
    rfl

end Text

namespace Felt

open Text (AllHex)
open Text.HexWord (value? valueFrom)

/-! ## Writings as numbers -/

/-- The ways to write a number as a felt. -/
inductive Writes (n : Nat) : Json → Prop
  /-- hexadecimal digits behind a marker -/
  | hex {marker : Char} {digits : List Char} (marked : marker = 'x' ∨ marker = 'X')
      (nonempty : digits ≠ []) (value : value? digits = some n) :
    Writes n (.text (String.ofList ('0' :: marker :: digits)))
  /-- decimal digits, zeros in front included no more than are converted -/
  | decimal {digits : List Char} (nonempty : digits ≠ []) (value : valueFrom 10 0 digits = some n)
      (short : digits.length ≤ Text.Numeral.digitLimit) :
    Writes n (.text (String.ofList digits))
  /-- the number itself -/
  | whole : Writes n (.int n)

theorem ofText_of_read {text : List Char} {n : Int} (hblank : ∀ c ∈ text, Text.isBlank c = false)
    (hread : Text.Numeral.read (baseOf (lowered text)) (lowered text) = some n)
    (hshort : Text.Numeral.isLong (baseOf (lowered text)) (lowered text) = false) :
    ofText text = .ok n := by
  simp only [ofText, Text.trim_of_not_blank hblank]
  exact Text.Numeral.convert_eq_ok_iff.mpr ⟨hread, hshort⟩

/-- A marker of either case is a zero and a letter in lower case. -/
theorem lowered_marked {marker : Char} (hmarked : marker = 'x' ∨ marker = 'X')
    (digits : List Char) : lowered ('0' :: marker :: digits) = '0' :: 'x' :: lowered digits := by
  rcases hmarked with rfl | rfl <;> rfl

theorem ofText_of_hex {marker : Char} {digits : List Char} {n : Nat}
    (hmarked : marker = 'x' ∨ marker = 'X') (hne : digits ≠ []) (hvalue : value? digits = some n) :
    ofText ('0' :: marker :: digits) = .ok (n : Int) := by
  have hhex : AllHex digits := Text.HexWord.allHex_of_value? hvalue
  apply ofText_of_read
  · intro c hc
    rcases List.mem_cons.mp hc with rfl | hc
    · decide
    · rcases List.mem_cons.mp hc with rfl | hc
      · rcases hmarked with rfl | rfl <;> decide
      · exact (Text.printed_of_isHexDigit (hhex c hc)).2
  · have hlowered : value? (lowered digits) = some n := by
      rw [lowered, Text.HexWord.value?_map_toLower, hvalue]
    rw [lowered_marked hmarked, baseOf, Text.HexWord.hasMarker_marked, if_pos rfl,
      Text.Numeral.read_of_marked (by simpa [lowered] using hne) (lowered_allHex hhex), hlowered]
    rfl
  · rw [lowered_marked hmarked, baseOf, Text.HexWord.hasMarker_marked, if_pos rfl]
    exact Text.Numeral.isLong_sixteen _

/-- Digits carry no marker. -/
theorem hasMarker_of_allHex {text : List Char} (h : AllHex text) :
    Text.HexWord.hasMarker text = false := by
  unfold Text.HexWord.hasMarker
  split
  · exact absurd (h 'x' (by simp)) (by decide)
  · rfl

/-- Plain decimal digits read as their value unless they are too many. -/
theorem convert_of_decimal {digits : List Char} {n : Nat} (hne : digits ≠ [])
    (hvalue : valueFrom 10 0 digits = some n) (told : String) :
    Text.Numeral.convert 10 digits told
      = if Text.Numeral.digitLimit < digits.length then .error (.value (.longNumeral digits.length))
        else .ok (n : Int) := by
  have hdecimal := Text.HexWord.isDecimalDigit_of_valueFrom hvalue
  simp only [Text.Numeral.convert, Text.Numeral.read_of_decimal hne hvalue,
    Text.Numeral.isLong_of_decimal hdecimal, Text.Numeral.digitCount_of_decimal hdecimal,
    decide_eq_true_eq]

theorem ofText_of_decimal {digits : List Char} {n : Nat} (hne : digits ≠ [])
    (hvalue : valueFrom 10 0 digits = some n) :
    ofText digits
      = if Text.Numeral.digitLimit < digits.length then .error (.value (.longNumeral digits.length))
        else .ok (n : Int) := by
  have hdecimal := Text.HexWord.isDecimalDigit_of_valueFrom hvalue
  have hhex : AllHex digits := fun c hc => Text.isHexDigit_of_isDecimalDigit (hdecimal c hc)
  have hlowered : lowered digits = digits := by
    rw [lowered, List.map_congr_left fun c hc => Text.toLower_of_isDecimalDigit (hdecimal c hc),
      List.map_id']
  have htrim : Text.trim digits = digits := Text.trim_of_allHex hhex
  have hbase : baseOf digits = 10 := by
    rw [baseOf, hasMarker_of_allHex hhex]
    rfl
  simp only [ofText, htrim, hlowered, hbase]
  exact convert_of_decimal hne hvalue _

section

variable {n : Nat} {felt : Json}

theorem number_of_writes (h : Writes n felt) : number felt = .ok (.whole n) := by
  cases h with
  | hex marked nonempty value =>
    rw [number_text, String.toList_ofList, ofText_of_hex marked nonempty value]
    rfl
  | decimal nonempty value short =>
    rw [number_text, String.toList_ofList, ofText_of_decimal nonempty value,
      if_neg (Nat.not_lt.mpr short)]
    rfl
  | whole => rfl

theorem value_of_writes (h : Writes n felt) : value felt = .ok (n : Int) := by
  rw [value, number_of_writes h]
  rfl

theorem column_of_writes (h : Writes n felt) : column felt = .ok (.int n) := by
  rw [column, number_of_writes h]
  rfl

theorem ne_null_of_writes (h : Writes n felt) : felt ≠ .null := by
  cases h <;> simp

theorem same_of_ne_null {a b : Json} (ha : a ≠ .null) (hb : b ≠ .null) :
    same a b = (value a >>= fun x => value b >>= fun y => .ok (x == y)) := by
  unfold same
  split
  · exact absurd rfl ha
  · exact absurd rfl hb
  · rfl

/-- Two writings of one number are the same felt. -/
theorem same_of_writes {other : Json} (h : Writes n felt) (hother : Writes n other) :
    same felt other = .ok true := by
  rw [same_of_ne_null (ne_null_of_writes h) (ne_null_of_writes hother), value_of_writes h,
    value_of_writes hother]
  simp

/-! ## Writings as short strings -/

theorem signedHex_natCast (n : Nat) : Text.Numeral.signedHex n = Nat.toDigits 16 n := by
  rw [Text.Numeral.signedHex, if_neg (by omega)]
  rfl

/-- Behind a marker the digits are taken as they stand, in lower case. -/
theorem hexDigits_of_lower {s : String} {digits : List Char}
    (h : Text.lower s.toList = '0' :: 'x' :: digits) : hexDigits (.text s) = .ok digits := by
  rw [hexDigits.eq_def]
  simp only [Json.asText_text, Outcome.ok_bind, h, Text.HexWord.hasMarker_marked, if_true,
    Text.HexWord.dropMarker_marked, Outcome.pure_eq_ok]

/-- Without one they are those of the number, unless it was written with too many. -/
theorem hexDigits_of_decimal {digits : List Char} (hne : digits ≠ [])
    (hvalue : valueFrom 10 0 digits = some n) :
    hexDigits (.text (String.ofList digits))
      = if Text.Numeral.digitLimit < digits.length then .error (.value (.longNumeral digits.length))
        else .ok (Nat.toDigits 16 n) := by
  have hhex : AllHex digits := fun c hc =>
    Text.isHexDigit_of_isDecimalDigit (Text.HexWord.isDecimalDigit_of_valueFrom hvalue c hc)
  have hascii : ∀ c ∈ digits, c.toNat < 128 := by
    intro c hc
    have hprinted := (Text.printed_of_isHexDigit (hhex c hc)).1
    omega
  have hmarker : Text.HexWord.hasMarker (Text.lower digits) = false := by
    rw [Text.lower_of_ascii hascii]
    exact hasMarker_of_allHex (lowered_allHex hhex)
  rw [hexDigits.eq_def]
  simp only [Json.asText_text, Outcome.ok_bind, String.toList_ofList, hmarker,
    Bool.false_eq_true, if_false, convert_of_decimal hne hvalue]
  rw [← signedHex_natCast]
  split <;> rfl

/-- The digits that a short string is made from have the number's value, however it is written. -/
theorem hexDigits_of_writes (h : Writes n felt) :
    ∃ digits, hexDigits felt = .ok digits ∧ value? digits = some n := by
  cases h with
  | @hex marker digits marked nonempty value =>
    have hhex : AllHex digits := Text.HexWord.allHex_of_value? value
    have hascii : ∀ c ∈ '0' :: marker :: digits, c.toNat < 128 := by
      intro c hc
      rcases List.mem_cons.mp hc with rfl | hc
      · decide
      · rcases List.mem_cons.mp hc with rfl | hc
        · rcases marked with rfl | rfl <;> decide
        · have hprinted := (Text.printed_of_isHexDigit (hhex c hc)).1
          omega
    refine ⟨lowered digits, ?_, ?_⟩
    · have hlower : Text.lower ('0' :: marker :: digits) = '0' :: 'x' :: lowered digits :=
        (Text.lower_of_ascii hascii).trans (lowered_marked marked digits)
      exact hexDigits_of_lower (by rw [String.toList_ofList, hlower])
    · rw [lowered, Text.HexWord.value?_map_toLower, value]
  | decimal nonempty value short =>
    refine ⟨Nat.toDigits 16 n, ?_, Text.HexWord.value?_toDigits n⟩
    rw [hexDigits_of_decimal nonempty value, if_neg (Nat.not_lt.mpr short)]
  | whole =>
    refine ⟨Nat.toDigits 16 n, ?_, Text.HexWord.value?_toDigits n⟩
    rw [hexDigits, signedHex_natCast]

end

/-! ## Bytes -/

/-- The number that bytes make up, the most significant first. -/
def bigEndian (bytes : List Nat) : Nat := Nat.ofDigits 256 bytes.reverse

theorem bigEndian_cons (byte : Nat) (rest : List Nat) :
    bigEndian (byte :: rest) = byte * 256 ^ rest.length + bigEndian rest := by
  rw [bigEndian, bigEndian, List.reverse_cons, Nat.ofDigits_append, Nat.ofDigits_singleton,
    List.length_reverse]
  ring

/-- Digits in even number are pairs, and the bytes of the pairs make up their value. -/
theorem bytesFrom_of_value? : ∀ {digits : List Char} {n : Nat} (position : Nat),
    digits.length % 2 = 0 → value? digits = some n →
      ∃ bytes, bytesFrom position digits = .ok bytes ∧ (∀ byte ∈ bytes, byte < 256) ∧
        2 * bytes.length = digits.length ∧ bigEndian bytes = n
  | [], n, _, _, hvalue => ⟨[], rfl, by simp, rfl, Option.some.inj hvalue⟩
  | [_], _, _, heven, _ => absurd heven (by simp)
  | c :: d :: rest, n, position, heven, hvalue => by
    have hhex := Text.HexWord.allHex_of_value? hvalue
    have hblank : Text.isAsciiBlank c = false := by
      have hwide := (Text.printed_of_isHexDigit (hhex c (by simp))).2
      by_contra hnot
      rw [Text.isBlank_of_isAsciiBlank (Bool.eq_true_of_not_eq_false hnot)] at hwide
      cases hwide
    rw [Text.HexWord.value?_cons] at hvalue
    obtain ⟨high, hhigh, hvalue⟩ := Option.bind_eq_some_iff.mp hvalue
    obtain ⟨v, hv, hsum⟩ := Option.map_eq_some_iff.mp hvalue
    rw [Text.HexWord.value?_cons] at hv
    obtain ⟨low, hlow, hv⟩ := Option.bind_eq_some_iff.mp hv
    obtain ⟨w, hw, hmore⟩ := Option.map_eq_some_iff.mp hv
    have hshorter : rest.length % 2 = 0 := by
      simp only [List.length_cons] at heven
      omega
    obtain ⟨bytes, hbytes, hlt, hlength, hnumber⟩ :=
      bytesFrom_of_value? (position + 2) hshorter hw
    refine ⟨(16 * high + low) :: bytes, ?_, ?_, ?_, ?_⟩
    · rw [bytesFrom.eq_def]
      simp only [hblank, hhigh, hlow, hbytes]
      rfl
    · have hhighLt := Text.hexValue?_lt hhigh
      have hlowLt := Text.hexValue?_lt hlow
      exact List.forall_mem_cons.mpr ⟨by omega, hlt⟩
    · simp only [List.length_cons]
      omega
    · rw [bigEndian_cons, hnumber, ← hsum, ← hmore, List.length_cons, ← hlength, pow_succ,
        show (256 : Nat) = 16 ^ 2 from rfl, ← pow_mul]
      ring

theorem value?_evenDigits {digits : List Char} {n : Nat} (h : value? digits = some n) :
    value? (evenDigits digits) = some n ∧ (evenDigits digits).length % 2 = 0 := by
  unfold evenDigits
  split
  · exact ⟨h, ‹_›⟩
  · refine ⟨?_, ?_⟩
    · exact (Text.HexWord.value?_replicate_append 1 digits).trans h
    · rw [List.length_cons]
      omega

/-- Digits are bytes that make up their value. -/
theorem bytesOf_of_value? {digits : List Char} {n : Nat} (h : value? digits = some n) :
    ∃ bytes, bytesOf (evenDigits digits) = .ok bytes ∧ (∀ byte ∈ bytes, byte < 256) ∧
      bigEndian bytes = n := by
  obtain ⟨hvalue, heven⟩ := value?_evenDigits h
  have hhex := Text.HexWord.allHex_of_value? hvalue
  have hascii : (evenDigits digits).findIdx? (fun c => decide (128 ≤ c.toNat)) = none := by
    rw [List.findIdx?_eq_none_iff]
    intro c hc
    have hprinted := (Text.printed_of_isHexDigit (hhex c hc)).1
    exact decide_eq_false (by omega)
  obtain ⟨bytes, hbytes, hlt, _, hnumber⟩ := bytesFrom_of_value? 0 heven hvalue
  refine ⟨bytes, ?_, hlt, hnumber⟩
  rw [bytesOf, hascii]
  exact hbytes

/-- Without the zeros in front, bytes are those of the number that they make up. -/
theorem dropWhile_zero_eq_digits {bytes : List Nat} (h : ∀ byte ∈ bytes, byte < 256) :
    bytes.dropWhile (· == 0) = (Nat.digits 256 (bigEndian bytes)).reverse := by
  induction bytes with
  | nil => rfl
  | cons byte rest ih =>
    obtain ⟨hbyte, hrest⟩ := List.forall_mem_cons.mp h
    by_cases hzero : byte = 0
    · subst hzero
      have hnumber : bigEndian (0 :: rest) = bigEndian rest := by
        rw [bigEndian_cons, Nat.zero_mul, Nat.zero_add]
      rw [List.dropWhile_cons_of_pos rfl, ih hrest, hnumber]
    · have hlast : ∀ hne : (byte :: rest).reverse ≠ [],
          (byte :: rest).reverse.getLast hne ≠ 0 := by
        intro hne
        rwa [List.getLast_reverse, List.head_cons]
      rw [List.dropWhile_cons_of_neg (by simpa using hzero), bigEndian,
        Nat.digits_ofDigits 256 (by decide) _ (fun b hb => h b (List.mem_reverse.mp hb)) hlast,
        List.reverse_reverse]

/-- Zeros in front are among the control characters that a text drops. -/
theorem withoutLeadingControls_dropWhile_zero (bytes : List Nat) :
    withoutLeadingControls ((bytes.dropWhile (· == 0)).map Char.ofNat)
      = withoutLeadingControls (bytes.map Char.ofNat) := by
  induction bytes with
  | nil => rfl
  | cons byte rest ih =>
    by_cases hzero : byte = 0
    · subst hzero
      rw [List.dropWhile_cons_of_pos rfl, ih, List.map_cons]
      rfl
    · rw [List.dropWhile_cons_of_neg (by simpa using hzero)]

/-- The short string of a number: the characters of its bytes, control characters in front
dropped. -/
def textOf (n : Nat) : String :=
  String.ofList (withoutLeadingControls ((Nat.digits 256 n).reverse.map Char.ofNat))

theorem text_of_writes {n : Nat} {felt : Json} (h : Writes n felt) :
    text felt = .ok (textOf n) := by
  obtain ⟨digits, hdigits, hvalue⟩ := hexDigits_of_writes h
  obtain ⟨bytes, hbytes, hlt, hnumber⟩ := bytesOf_of_value? hvalue
  rw [text, shortString, hdigits, Outcome.ok_bind, hbytes, Outcome.mapError_ok, Outcome.ok_bind,
    Outcome.pure_eq_ok, Outcome.map_ok, textOf, ← hnumber, ← dropWhile_zero_eq_digits hlt,
    withoutLeadingControls_dropWhile_zero]

end Felt

end OracleIndexer
