import OracleIndexer.Proofs.Felt.Rereading
import OracleIndexer.Proofs.Text.LowerCase
set_option autoImplicit false

/-!
# Short strings and their numbers

The bytes of a short string make up the number of the felt.  So a text of characters that are bytes
survives in the number of its bytes, however that is written, up to the control characters in front
of it; and where a felt reads both as a number and as a short string, the two agree.
-/

namespace OracleIndexer

namespace Text

open HexWord (value?)

/-! ## Blanks among digits -/

/-- A text without the ASCII blanks in it. -/
def withoutBlanks (text : List Char) : List Char := text.filter fun c => !isAsciiBlank c

theorem withoutBlanks_cons_of_blank {c : Char} (h : isAsciiBlank c = true) (rest : List Char) :
    withoutBlanks (c :: rest) = withoutBlanks rest :=
  List.filter_cons_of_neg (by simp [h])

theorem withoutBlanks_cons {c : Char} (h : isAsciiBlank c = false) (rest : List Char) :
    withoutBlanks (c :: rest) = c :: withoutBlanks rest :=
  List.filter_cons_of_pos (by simp [h])

theorem withoutBlanks_append (front back : List Char) :
    withoutBlanks (front ++ back) = withoutBlanks front ++ withoutBlanks back :=
  List.filter_append ..

theorem withoutBlanks_eq_nil {text : List Char} (h : ∀ c ∈ text, isAsciiBlank c = true) :
    withoutBlanks text = [] :=
  List.filter_eq_nil_iff.mpr fun c hc => by simp [h c hc]

theorem withoutBlanks_eq_self {text : List Char} (h : ∀ c ∈ text, isAsciiBlank c = false) :
    withoutBlanks text = text :=
  List.filter_eq_self.mpr fun c hc => by simp [h c hc]

theorem withoutBlanks_map_toLower (text : List Char) :
    withoutBlanks (text.map Char.toLower) = (withoutBlanks text).map Char.toLower := by
  have hcase : (fun c => !isAsciiBlank c) ∘ Char.toLower = fun c => !isAsciiBlank c := by
    funext c
    rw [Function.comp, isAsciiBlank_toLower]
  rw [withoutBlanks, List.filter_map, hcase, withoutBlanks]

theorem isAsciiBlank_of_isHexDigit {c : Char} (h : isHexDigit c = true) : isAsciiBlank c = false :=
  Numeral.isAsciiBlank_of_not_isBlank (printed_of_isHexDigit h).2

/-- Digits with blanks among them have only numeric characters. -/
theorem isNumeric_of_value? {text : List Char} {n : Nat}
    (h : value? (withoutBlanks text) = some n) : ∀ c ∈ text, isNumeric c = true := by
  intro c hc
  cases hblank : isAsciiBlank c with
  | true => exact isNumeric_iff.mpr (.inl (.inr hblank))
  | false =>
    have hmem : c ∈ withoutBlanks text := List.mem_filter.mpr ⟨hc, by simp [hblank]⟩
    exact isNumeric_iff.mpr (.inl (.inl (HexWord.allHex_of_value? h c hmem)))

/-- A character that is numeric in lower case is printed ASCII or an ASCII blank, and no
underscore. -/
theorem plain_of_isNumeric_toLower {c : Char} (h : isNumeric c.toLower = true) :
    c.toNat < 127 ∧ c ≠ '_' ∧ isSeparator c = false := by
  refine ⟨?_, ?_, ?_⟩
  · have hascii := lt_of_isNumeric h
    rw [toNat_toLower] at hascii
    split at hascii <;> omega
  · rintro rfl
    exact absurd h (by decide)
  · by_contra hnot
    have hseparator := Bool.eq_true_of_not_eq_false hnot
    have hrange := isSeparator_iff.mp hseparator
    rw [toLower_eq_self (by omega), isNumeric_iff] at h
    rcases h with (hdigit | hblank) | rfl
    · have hprinted := (printed_of_isHexDigit hdigit).2
      rw [isBlank_of_isSeparator hseparator] at hprinted
      cases hprinted
    · rw [isAsciiBlank_of_isSeparator hseparator] at hblank
      cases hblank
    · exact absurd hrange (by decide)

namespace Numeral

/-! ## Numerals with and without a marker -/

theorem Grouped.eq_of_not_mem {text digits : List Char} (h : Grouped text digits)
    (hno : '_' ∉ text) : text = digits := by
  induction h with
  | single c => rfl
  | next c more ih => rw [ih fun hmem => hno (List.mem_cons_of_mem c hmem)]
  | apart c more ih => exact absurd (by simp) hno

/-- A numeral of base ten holds no letter of a marker. -/
theorem not_mem_of_read_ten {text : List Char} {n : Int} {marker : Char}
    (hmarker : marker = 'x' ∨ marker = 'X') (h : read 10 text = some n) : marker ∉ text := by
  obtain ⟨parts, front_blank, back_blank, signs, marks, grouped, value⟩ := read_eq_some_iff.mp h
  have hletter : isAsciiBlank marker = false ∧ marker.toNat < 127 ∧ marker ≠ '_' ∧
      marker ≠ '+' ∧ marker ≠ '-' ∧ isDecimalDigit marker = false := by
    rcases hmarker with rfl | rfl <;> decide
  obtain ⟨hblank, hascii, hunderscore, hplus, hminus, hdigit⟩ := hletter
  intro hmem
  have hcanonical : marker ∈ text.map canonical :=
    List.mem_map.mpr ⟨marker, hmem, canonical_of_ascii hascii⟩
  obtain rfl := marks.eq_nil_of_ten
  rw [parts] at hcanonical
  simp only [List.mem_append, List.nil_append] at hcanonical
  rcases hcanonical with hfront | (hsign | hbody) | hback
  · rw [front_blank marker hfront] at hblank
    cases hblank
  · cases signs <;> simp_all
  · rcases grouped.mem marker hbody with hsame | hplain
    · exact hunderscore hsame
    · rw [HexWord.isDecimalDigit_of_valueFrom value marker hplain] at hdigit
      cases hdigit
  · rw [back_blank marker hback] at hblank
    cases hblank

/-- Behind a marker, and without underscores, a numeral of base sixteen is made of its digits. -/
theorem value?_of_read_marked {marker : Char} {rest : List Char} {n : Int}
    (hmarker : marker = 'x' ∨ marker = 'X') (hascii : ∀ c ∈ rest, c.toNat < 127)
    (hunderscore : '_' ∉ rest) (h : read 16 ('0' :: marker :: rest) = some n) :
    ∃ m : Nat, value? (withoutBlanks rest) = some m ∧ n = m := by
  obtain @⟨_, _, _, body, _, _, m, parts, front_blank, back_blank, signs, marks, grouped, value⟩ :=
    read_eq_some_iff.mp h
  have hletter : isAsciiBlank marker = false ∧ marker.toNat < 127 := by
    rcases hmarker with rfl | rfl <;> decide
  have hplain : ('0' :: marker :: rest).map canonical = '0' :: marker :: rest := by
    apply map_canonical_of_ascii
    intro c hc
    rcases List.mem_cons.mp hc with rfl | hc
    · decide
    · rcases List.mem_cons.mp hc with rfl | hc
      · exact hletter.2
      · exact hascii c hc
  -- blanks stand only around the numeral, so without them its parts are left
  have hcore := fun c hc =>
    isAsciiBlank_of_not_isBlank (isBlank_of_parts signs marks grouped value c hc)
  rw [hplain] at parts
  have hparts := congrArg withoutBlanks parts
  rw [withoutBlanks_cons (by decide), withoutBlanks_cons hletter.1, withoutBlanks_append,
    withoutBlanks_append, withoutBlanks_eq_nil front_blank, withoutBlanks_eq_nil back_blank,
    withoutBlanks_eq_self hcore, List.nil_append, List.append_nil] at hparts
  cases signs with
  | plus => exact absurd (List.cons.inj hparts).1 (by decide)
  | minus => exact absurd (List.cons.inj hparts).1 (by decide)
  | none =>
    refine ⟨m, ?_, rfl⟩
    cases marks with
    | none =>
      rw [List.nil_append, List.nil_append] at hparts
      rw [← hparts] at grouped
      have hnot := marksBase_of_grouped grouped value
      rcases hmarker with rfl | rfl <;> cases hnot
    | letter =>
      have hbody : withoutBlanks rest = body := (List.cons.inj (List.cons.inj hparts).2).2
      have hno : '_' ∉ body := fun hmem => hunderscore (List.mem_of_mem_filter (hbody ▸ hmem))
      rw [hbody, grouped.eq_of_not_mem hno]
      exact value
    | apart =>
      have hbody : withoutBlanks rest = '_' :: body := (List.cons.inj (List.cons.inj hparts).2).2
      have hmem : '_' ∈ withoutBlanks rest := by
        rw [hbody]
        exact List.mem_cons_self
      exact absurd (List.mem_of_mem_filter hmem) hunderscore

end Numeral

end Text

namespace Felt

open Text (isNumeric withoutBlanks isSeparator)
open Text.HexWord (value? Marked hasMarker dropMarker)
open Text.Numeral (read signedHex)

/-! ## Bytes of digits -/

/-- Where bytes are read, their digits have the number that the bytes make up. -/
theorem value?_of_bytesFrom {position : Nat} {digits : List Char} {bytes : List Nat}
    (h : bytesFrom position digits = .ok bytes) :
    value? (withoutBlanks digits) = some (bigEndian bytes) ∧
      (withoutBlanks digits).length = 2 * bytes.length ∧ ∀ byte ∈ bytes, byte < 256 := by
  fun_induction bytesFrom position digits generalizing bytes with
  | case1 =>
    obtain rfl := Except.ok.inj h
    exact ⟨rfl, rfl, by simp⟩
  | case2 position c rest hblank ih =>
    rw [Text.withoutBlanks_cons_of_blank hblank]
    exact ih h
  | case3 => contradiction
  | case4 => contradiction
  | case5 => contradiction
  | case6 position c hblank high d more hhigh low hlow ih =>
    obtain ⟨others, hothers, rfl⟩ := Outcome.map_eq_ok_iff.mp h
    obtain ⟨hvalue, hlength, hlt⟩ := ih hothers
    have hdigit : ∀ {e : Char} {x : Nat}, Text.hexValue? e = some x →
        Text.isAsciiBlank e = false := by
      intro e x hx
      apply Text.isAsciiBlank_of_isHexDigit
      rw [Text.isHexDigit, hx]
      rfl
    have hpow : 16 ^ (2 * others.length) = 256 ^ others.length := pow_mul 16 2 others.length
    have hhighLt := Text.hexValue?_lt hhigh
    have hlowLt := Text.hexValue?_lt hlow
    rw [Text.withoutBlanks_cons (hdigit hhigh), Text.withoutBlanks_cons (hdigit hlow)]
    refine ⟨?_, ?_, List.forall_mem_cons.mpr ⟨by omega, hlt⟩⟩
    · rw [Text.HexWord.value?_cons, hhigh, Text.HexWord.value?_cons, hlow, hvalue, bigEndian_cons,
        List.length_cons, hlength, pow_succ, hpow]
      simp only [Option.bind_some, Option.map_some, Option.some.injEq]
      ring
    · simp only [List.length_cons, hlength]
      omega

/-- Where digits are read as bytes, a zero put in front where needed, the bytes make up their
number. -/
theorem value?_of_bytesOf {digits : List Char} {bytes : List Nat}
    (h : bytesOf (evenDigits digits) = .ok bytes) :
    value? (withoutBlanks digits) = some (bigEndian bytes) ∧ ∀ byte ∈ bytes, byte < 256 := by
  have heven : value? (withoutBlanks (evenDigits digits)) = value? (withoutBlanks digits) := by
    unfold evenDigits
    split
    · rfl
    · rw [Text.withoutBlanks_cons (by decide)]
      exact Text.HexWord.value?_replicate_append 1 _
  unfold bytesOf at h
  split at h
  · contradiction
  · obtain ⟨hvalue, _, hlt⟩ := value?_of_bytesFrom h
    exact ⟨heven ▸ hvalue, hlt⟩

/-- Only a number without a sign is written in digits alone, and these have its value. -/
theorem eq_of_value?_signedHex {n : Int} {v : Nat}
    (h : value? (withoutBlanks (signedHex n)) = some v) : n = v := by
  by_cases hneg : n < 0
  · rw [signedHex, if_pos hneg, Text.withoutBlanks_cons (by decide)] at h
    exact absurd (Text.HexWord.allHex_of_value? h '-' List.mem_cons_self) (by decide)
  · obtain ⟨m, rfl⟩ := Int.eq_ofNat_of_zero_le (Int.not_lt.mp hneg)
    have hdigits : ∀ c ∈ Nat.toDigits 16 m, Text.isAsciiBlank c = false := fun c hc =>
      Text.isAsciiBlank_of_isHexDigit (Text.allHex_toDigits m c hc)
    rw [signedHex_natCast, Text.withoutBlanks_eq_self hdigits, Text.HexWord.value?_toDigits,
      Option.some.injEq] at h
    rw [h]

/-! ## Two readers of a text -/

/-- The digits of a short string: those behind the marker, or else those of the number. -/
inductive DigitsOf (text : List Char) : List Char → Prop
  | marked (marked : hasMarker (Text.lower text) = true) :
    DigitsOf text (dropMarker (Text.lower text))
  | number {m : Int} (reads : read 10 text = some m) : DigitsOf text (signedHex m)

theorem eq_of_hasMarker {text : List Char} (h : hasMarker text = true) :
    text = '0' :: 'x' :: dropMarker text := by
  unfold hasMarker at h
  split at h
  · rfl
  · contradiction

/-- A text with a marker in lower case, and digits and blanks behind it, has a marker of either case
as it stands, and plain characters alone. -/
theorem exists_marked_of_lower {text : List Char} (hmarked : hasMarker (Text.lower text) = true)
    (hnumeric : ∀ c ∈ dropMarker (Text.lower text), isNumeric c = true) :
    ∃ marker rest, (marker = 'x' ∨ marker = 'X') ∧ text = '0' :: marker :: rest ∧
      dropMarker (Text.lower text) = lowered rest ∧
      ∀ c ∈ text, c.toNat < 127 ∧ c ≠ '_' ∧ isSeparator c = false := by
  have hall : ∀ d ∈ Text.lower text, isNumeric d = true := by
    rw [eq_of_hasMarker hmarked]
    exact List.forall_mem_cons.mpr ⟨rfl, List.forall_mem_cons.mpr ⟨rfl, hnumeric⟩⟩
  have hlower : Text.lower text = lowered text := Text.lower_eq_map_of_numeric hall
  have hplain : ∀ c ∈ text, c.toNat < 127 ∧ c ≠ '_' ∧ isSeparator c = false := by
    intro c hc
    apply Text.plain_of_isNumeric_toLower
    apply hall
    rw [hlower]
    exact List.mem_map_of_mem hc
  rw [hlower] at hmarked ⊢
  obtain ⟨marker, rest, hmarker, rfl⟩ := hasMarker_lowered_iff.mp hmarked
  refine ⟨marker, rest, hmarker, rfl, ?_, hplain⟩
  rw [lowered_marked hmarker, Text.HexWord.dropMarker_marked]

/-- A felt without separators around it is a numeral with the blanks around it, of base sixteen only
where it holds the letter of a marker. -/
theorem read_of_ofText {text : List Char} {n : Int} (hplain : ∀ c ∈ text, isSeparator c = false)
    (h : ofText text = .ok n) :
    (∃ marker ∈ text, (marker = 'x' ∨ marker = 'X') ∧ read 16 text = some n) ∨
      read 10 text = some n := by
  rw [ofText_eq_ok_iff, Text.Numeral.read_trim hplain, Text.Numeral.read_trim hplain] at h
  rcases h with ⟨⟨marker, rest, hmarker, htrim⟩, hread⟩ | ⟨_, hread, _⟩
  · obtain ⟨front, back, htext, _⟩ := Text.exists_eq_trimBy Text.isBlank text
    rw [← Text.trim, htrim] at htext
    refine .inl ⟨marker, ?_, hmarker, hread⟩
    rw [htext]
    simp
  · exact .inr hread

/-- A text that reads as a felt has the number of the digits that its short string is made from. -/
theorem eq_of_ofText {text digits : List Char} {n : Int} {v : Nat} (hdigits : DigitsOf text digits)
    (hnumber : value? (withoutBlanks digits) = some v) (hvalue : ofText text = .ok n) : n = v := by
  cases hdigits with
  | marked marked =>
    obtain ⟨marker, rest, hmarker, rfl, hrest, hplain⟩ :=
      exists_marked_of_lower marked (Text.isNumeric_of_value? hnumber)
    rw [hrest, lowered, Text.withoutBlanks_map_toLower, Text.HexWord.value?_map_toLower] at hnumber
    rcases read_of_ofText (fun c hc => (hplain c hc).2.2) hvalue with ⟨_, _, _, hsixteen⟩ | hten
    · have hbehind : ∀ c ∈ rest, c.toNat < 127 ∧ c ≠ '_' ∧ isSeparator c = false := fun c hc =>
        hplain c (List.mem_cons_of_mem _ (List.mem_cons_of_mem _ hc))
      obtain ⟨m, hm, rfl⟩ := Text.Numeral.value?_of_read_marked hmarker
        (fun c hc => (hbehind c hc).1) (fun hmem => (hbehind '_' hmem).2.1 rfl) hsixteen
      rw [hm, Option.some.injEq] at hnumber
      rw [hnumber]
    · exact absurd (by simp) (Text.Numeral.not_mem_of_read_ten hmarker hten)
  | @number m reads =>
    rw [← eq_of_value?_signedHex hnumber]
    rcases read_of_ofText (Text.Numeral.not_isSeparator_of_read reads) hvalue with
      ⟨marker, hmem, hmarker, _⟩ | hten
    · exact absurd hmem (Text.Numeral.not_mem_of_read_ten hmarker reads)
    · rw [hten, Option.some.injEq] at reads
      exact reads

/-! ## Two readers of a felt -/

theorem digitsOf_of_hexDigits {felt : Json} {digits : List Char} (hbool : ∀ b, felt ≠ .bool b)
    (hint : ∀ n, felt ≠ .int n) (h : hexDigits felt = .ok digits) :
    ∃ text, felt.asText = .ok text ∧ DigitsOf text.toList digits := by
  rw [hexDigits.eq_def] at h
  split at h
  · exact absurd rfl (hbool _)
  · exact absurd rfl (hint _)
  · obtain ⟨text, htext, h⟩ := Outcome.bind_eq_ok_iff.mp h
    refine ⟨text, htext, ?_⟩
    simp only at h
    split at h
    · rename_i hmarked
      obtain rfl := Except.ok.inj h
      exact .marked hmarked
    · obtain ⟨m, hconverted, h⟩ := Outcome.bind_eq_ok_iff.mp h
      obtain rfl := Except.ok.inj h
      exact .number (Text.Numeral.convert_eq_ok_iff.mp hconverted).1

/-- A document of another kind reads as its text does. -/
theorem value_of_asText {felt : Json} {text : String} (hnull : felt ≠ .null)
    (hbool : ∀ b, felt ≠ .bool b) (hint : ∀ n, felt ≠ .int n) (htext : felt.asText = .ok text) :
    value felt = ofText text.toList := by
  have hnumber : number felt = (ofText text.toList).map .whole := by
    rw [number.eq_def]
    split
    · exact absurd rfl hnull
    · exact absurd rfl (hbool _)
    · exact absurd rfl (hint _)
    · rw [htext, Outcome.ok_bind]
      cases ofText text.toList <;> rfl
  rw [value, hnumber]
  cases ofText text.toList <;> rfl

/-- The digits of a short string are written from the felt's number, or taken from the text that it
is read from. -/
theorem hexDigits_eq_ok {felt : Json} {digits : List Char} (h : hexDigits felt = .ok digits) :
    (∃ m, value felt = .ok m ∧ digits = signedHex m) ∨
      ∃ text : String, value felt = ofText text.toList ∧ DigitsOf text.toList digits := by
  by_cases hbool : ∃ b, felt = .bool b
  · obtain ⟨b, rfl⟩ := hbool
    exact .inl ⟨_, rfl, (Except.ok.inj h).symm⟩
  by_cases hint : ∃ m, felt = .int m
  · obtain ⟨m, rfl⟩ := hint
    exact .inl ⟨m, rfl, (Except.ok.inj h).symm⟩
  obtain ⟨text, htext, hdigits⟩ := digitsOf_of_hexDigits (not_exists.mp hbool)
    (not_exists.mp hint) h
  by_cases hnull : felt = .null
  · -- the word for an absent felt is no numeral
    subst hnull
    obtain rfl : "None" = text := Except.ok.inj htext
    cases hdigits with
    | marked marked => exact absurd marked (by decide)
    | number reads =>
      have hnone : read 10 "None".toList = none := by decide
      rw [hnone] at reads
      cases reads
  · exact .inr ⟨text, value_of_asText hnull (not_exists.mp hbool) (not_exists.mp hint) htext,
      hdigits⟩

/-! ## Characters as bytes -/

/-- The number that characters make up as bytes, the first one the most significant. -/
def numberOf (chars : List Char) : Nat := bigEndian (chars.map Char.toNat)

theorem toNat_ofNat_of_lt {byte : Nat} (h : byte < 256) : (Char.ofNat byte).toNat = byte :=
  Text.toNat_ofNat_of_valid (.inl (by omega))

theorem map_toNat_map_ofNat {bytes : List Nat} (h : ∀ byte ∈ bytes, byte < 256) :
    (bytes.map Char.ofNat).map Char.toNat = bytes := by
  have hsame : ∀ byte ∈ bytes, (Char.toNat ∘ Char.ofNat) byte = id byte := fun byte hbyte =>
    toNat_ofNat_of_lt (h byte hbyte)
  rw [List.map_map, List.map_congr_left hsame, List.map_id]

theorem map_ofNat_map_toNat (chars : List Char) :
    (chars.map Char.toNat).map Char.ofNat = chars := by
  rw [List.map_map, Function.comp_def]
  simp

/-- A felt that reads as a number and as a short string is one and the same: the characters are
bytes, and make up the number. -/
theorem readers_agree {felt : Json} {n : Int} {chars : List Char} (hvalue : value felt = .ok n)
    (hchars : shortString felt = .ok chars) :
    (∀ c ∈ chars, c.toNat < 256) ∧ n = numberOf chars := by
  obtain ⟨digits, hdigits, hrest⟩ := Outcome.bind_eq_ok_iff.mp hchars
  obtain ⟨bytes, hbytes, hpure⟩ := Outcome.bind_eq_ok_iff.mp hrest
  obtain rfl : bytes.map Char.ofNat = chars := Except.ok.inj hpure
  obtain ⟨hnumber, hlt⟩ := value?_of_bytesOf (Outcome.mapError_eq_ok_iff.mp hbytes)
  refine ⟨?_, ?_⟩
  · intro c hc
    obtain ⟨byte, hbyte, rfl⟩ := List.mem_map.mp hc
    rw [toNat_ofNat_of_lt (hlt byte hbyte)]
    exact hlt byte hbyte
  · rw [numberOf, map_toNat_map_ofNat hlt]
    rcases hexDigits_eq_ok hdigits with ⟨m, hm, rfl⟩ | ⟨text, htext, hform⟩
    · rw [hm, Except.ok.injEq] at hvalue
      rw [← hvalue]
      exact eq_of_value?_signedHex hnumber
    · rw [htext] at hvalue
      exact eq_of_ofText hform hnumber hvalue

/-- Blanks behind the digits are skipped by both readers. -/
theorem readers_agree_before_blanks :
    value (.text "0X4254  ") = .ok 16980 ∧ shortString (.text "0X4254  ") = .ok ['B', 'T'] ∧
      (16980 : Int) = numberOf ['B', 'T'] := by
  have hlower : Text.lower ['0', 'X', '4', '2', '5', '4', ' ', ' ']
      = ['0', 'x', '4', '2', '5', '4', ' ', ' '] := Text.lower_of_ascii (by simp)
  have hdigits : hexDigits (.text "0X4254  ") = .ok ['4', '2', '5', '4', ' ', ' '] :=
    hexDigits_of_lower hlower
  have hvalue : value (.text "0X4254  ") = .ok 16980 := by rfl
  have hchars : shortString (.text "0X4254  ") = .ok ['B', 'T'] := by
    rw [shortString, hdigits]
    rfl
  exact ⟨hvalue, hchars, (readers_agree hvalue hchars).2⟩

/-! ## Texts in numbers -/

/-- Of the characters of a text only the control characters in front of it are lost in the number of
its bytes. -/
theorem textOf_numberOf {chars : List Char} (h : ∀ c ∈ chars, c.toNat < 256) :
    textOf (numberOf chars) = String.ofList (withoutLeadingControls chars) := by
  have hbytes : ∀ byte ∈ chars.map Char.toNat, byte < 256 := by
    intro byte hbyte
    obtain ⟨c, hc, rfl⟩ := List.mem_map.mp hbyte
    exact h c hc
  rw [textOf, numberOf, ← dropWhile_zero_eq_digits hbytes, withoutLeadingControls_dropWhile_zero,
    map_ofNat_map_toNat]

/-- Control characters end where a character of another kind, or the text, does. -/
theorem withoutLeadingControls_append {front rest : List Char} (hfront : ∀ c ∈ front, c.toNat < 32)
    (hrest : ∀ c ∈ rest.head?, 32 ≤ c.toNat) : withoutLeadingControls (front ++ rest) = rest := by
  have hcontrols : ∀ c ∈ front, decide (c.toNat < 32) = true := fun c hc =>
    decide_eq_true (hfront c hc)
  rw [withoutLeadingControls, List.dropWhile_append_of_pos hcontrols]
  cases rest with
  | nil => rfl
  | cons c more =>
    have hkept : 32 ≤ c.toNat := hrest c rfl
    rw [List.dropWhile_cons_of_neg (by simpa using hkept)]

/-- A text of characters that are bytes survives in the number of its bytes, however that is written
in digits that are converted, up to the control characters in front of it. -/
theorem text_survives {s : String} {felt : Json} (hbytes : ∀ c ∈ s.toList, c.toNat < 256)
    (hwrites : Writes (numberOf s.toList) felt) :
    ((∀ c ∈ s.toList.head?, 32 ≤ c.toNat) → text felt = .ok s) ∧
      ∀ front rest, s.toList = front ++ rest → (∀ c ∈ front, c.toNat < 32) →
        (∀ c ∈ rest.head?, 32 ≤ c.toNat) → text felt = .ok (String.ofList rest) := by
  have hdrop : ∀ front rest, s.toList = front ++ rest → (∀ c ∈ front, c.toNat < 32) →
      (∀ c ∈ rest.head?, 32 ≤ c.toNat) → text felt = .ok (String.ofList rest) := by
    intro front rest hsplit hfront hrest
    rw [text_of_writes hwrites, textOf_numberOf hbytes, hsplit,
      withoutLeadingControls_append hfront hrest]
  refine ⟨?_, hdrop⟩
  intro hhead
  rw [hdrop [] s.toList rfl (by simp) hhead, String.ofList_toList]

/-- Zeros in front of the digits leave a text as it is, and a control character in front of a text
is dropped with them. -/
theorem text_survives_padding :
    text (.text "0X05AfC72696368") = .ok "Zürich" ∧ text (.text "0x0007425443") = .ok "BTC" := by
  have hcity : Writes (numberOf "Zürich".toList) (.text "0X05AfC72696368") :=
    .hex (.inr rfl) (by simp) rfl
  have hpair : Writes (numberOf "\x07BTC".toList) (.text "0x0007425443") :=
    .hex (.inl rfl) (by simp) rfl
  refine ⟨(text_survives (by simp) hcity).1 (by simp), ?_⟩
  exact (text_survives (by simp) hpair).2 ['\x07'] ['B', 'T', 'C'] rfl (by simp) (by simp)

/-- A long text is worth more than can be written in decimal digits. -/
theorem pow_digitLimit_le_numberOf {c : Char} {rest : List Char} (hfirst : 0 < c.toNat)
    (hlong : 14340 ≤ 8 * rest.length) : 10 ^ Text.Numeral.digitLimit ≤ numberOf (c :: rest) := by
  have hplace : 256 ^ rest.length ≤ c.toNat * 256 ^ rest.length := Nat.le_mul_of_pos_left _ hfirst
  calc 10 ^ Text.Numeral.digitLimit
    _ ≤ 2 ^ (8 * rest.length) := Text.Numeral.pow_digitLimit_le hlong
    _ = 256 ^ rest.length := Nat.pow_mul 2 8 rest.length
    _ ≤ numberOf (c :: rest) := by
      rw [numberOf, List.map_cons, bigEndian_cons, List.length_map]
      omega

/-- Its decimal text is no short string. -/
theorem text_of_long_decimal {n : Nat} (h : 10 ^ Text.Numeral.digitLimit ≤ n) :
    text (.text (String.ofList (Nat.toDigits 10 n)))
      = .error (.value (.longNumeral (Nat.toDigits 10 n).length)) := by
  have hlong : Text.Numeral.digitLimit < (Nat.toDigits 10 n).length := by
    by_contra hshort
    have hlt := (Nat.length_toDigits_le_iff (by decide) (by decide)).mp (Nat.le_of_not_lt hshort)
    omega
  rw [text, shortString, hexDigits_of_decimal Nat.toDigits_ne_nil
    (Text.HexWord.valueFrom_toDigits (by decide) (by decide) n), if_pos hlong, Outcome.error_bind,
    Outcome.map_error]

/-- Two thousand letters do not survive in the decimal text of their number. -/
theorem text_lost :
    (∀ c ∈ 'a' :: List.replicate 1999 'a', 32 ≤ c.toNat ∧ c.toNat < 256) ∧
    text (.text (String.ofList (Nat.toDigits 10 (numberOf ('a' :: List.replicate 1999 'a')))))
      = .error (.value (.longNumeral
          (Nat.toDigits 10 (numberOf ('a' :: List.replicate 1999 'a'))).length)) := by
  have hletters : ∀ c ∈ 'a' :: List.replicate 1999 'a', c = 'a' := fun c hc =>
    (List.mem_cons.mp hc).elim id fun hmore => (List.mem_replicate.mp hmore).2
  have hlong : 14340 ≤ 8 * (List.replicate 1999 'a').length := by
    rw [List.length_replicate]
    decide
  refine ⟨fun c hc => by rw [hletters c hc]; decide, text_of_long_decimal ?_⟩
  exact pow_digitLimit_le_numberOf (by decide) hlong

end Felt

end OracleIndexer
