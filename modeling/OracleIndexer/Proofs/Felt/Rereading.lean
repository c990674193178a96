import OracleIndexer.Proofs.Felt.Writing
import OracleIndexer.Proofs.Text.Bases
import OracleIndexer.Proofs.Text.Decimal
import OracleIndexer.Proofs.Word256
set_option autoImplicit false

/-!
# Felts under other readers

Two places read felts by rules of their own: as numerals of base sixteen, marked or not, and as hex
words, which are digits alone.  They find the number that the felt has exactly if the felt is
marked, or the number is below ten; and the first if no separator stands around the digits, the
second if nothing does.
-/

namespace OracleIndexer.Felt

open Text (AllHex isSeparator)
open Text.HexWord (Marked digitsOf hasMarker value?)
open Text.Numeral (read isLong)

/-! ## Felts of payloads -/

/-- A felt as payloads hold it: a text or a whole number. -/
inductive Held : Json → Prop
  | text (s : String) : Held (.text s)
  | whole (n : Int) : Held (.int n)

theorem shownText_natCast (n : Nat) : (Json.int n).shownText.toList = Nat.toDigits 10 n := by
  rw [Json.shownText, Json.literalText, String.toList_ofList]
  · exact Nat.toList_repr
  · exact fun _ => Json.noConfusion

/-- The text of a number has no marker. -/
theorem not_marked_shownText (n : Nat) : ¬ Marked (Text.trim (Json.int n).shownText.toList) := by
  have hhex : AllHex (Nat.toDigits 10 n) := fun c hc =>
    Text.isHexDigit_of_isDecimalDigit (Text.isDecimalDigit_of_mem_toDigits hc)
  rw [shownText_natCast, Text.trim_of_allHex hhex]
  exact Text.HexWord.not_marked_of_allHex hhex

/-- A number is read from its text, where it has one, as from itself. -/
theorem ofText_of_asText {felt : Json} {text : String} {n : Nat} (h : Held felt)
    (htext : felt.asText = .ok text) (hvalue : value felt = .ok (n : Int)) :
    ofText text.toList = .ok (n : Int) := by
  cases h with
  | text s =>
    rw [Json.asText_text, Except.ok.injEq] at htext
    rwa [value_text, htext] at hvalue
  | whole k =>
    rw [value_int, Except.ok.injEq] at hvalue
    subst hvalue
    obtain ⟨hshort, rfl⟩ := Json.asText_eq_ok_iff.mp htext
    rw [shownText_natCast, ofText_of_decimal Nat.toDigits_ne_nil
      (Text.HexWord.valueFrom_toDigits (by decide) (by decide) n)]
    exact if_neg (Nat.not_lt.mpr (of_decide_eq_true hshort))

/-- A marker may have either case. -/
theorem hasMarker_lowered_iff {text : List Char} :
    hasMarker (lowered text) = true ↔ Marked text := by
  constructor
  · intro h
    unfold hasMarker at h
    split at h
    · rename_i hlowered
      obtain ⟨zero, more, rfl, hzero, hmore⟩ := List.map_eq_cons_iff.mp hlowered
      obtain ⟨marker, rest, rfl, hmarker, _⟩ := List.map_eq_cons_iff.mp hmore
      rw [Text.toLower_eq_iff (by decide) (by decide)] at hzero
      have hletter : (marker.toLower == 'x' || marker.toLower == 'X')
          = (marker == 'x' || marker == 'X') :=
        Text.beq_toLower_or (by decide) (by decide) marker
      rw [hmarker] at hletter
      refine ⟨marker, rest, ?_, by rw [hzero]⟩
      simpa using hletter.symm
    · contradiction
  · rintro ⟨marker, rest, hmarker, rfl⟩
    rw [lowered_marked hmarker]
    rfl

/-- A felt is a numeral without the blanks around it, of base sixteen exactly behind a marker, and
of no more digits than are converted otherwise. -/
theorem ofText_eq_ok_iff {text : List Char} {n : Int} :
    ofText text = .ok n ↔
      (Marked (Text.trim text) ∧ read 16 (Text.trim text) = some n) ∨
        (¬ Marked (Text.trim text) ∧ read 10 (Text.trim text) = some n ∧
          isLong 10 (Text.trim text) = false) := by
  have hbase : ofText text = .ok n ↔
      read (baseOf (lowered (Text.trim text))) (Text.trim text) = some n ∧
        isLong (baseOf (lowered (Text.trim text))) (Text.trim text) = false := by
    rw [← Text.Numeral.read_map_toLower, ← Text.Numeral.isLong_map_toLower]
    exact Text.Numeral.convert_eq_ok_iff
  rw [hbase, baseOf]
  by_cases hmarked : Marked (Text.trim text)
  · simp [hasMarker_lowered_iff.mpr hmarked, hmarked, Text.Numeral.isLong_sixteen]
  · simp [mt hasMarker_lowered_iff.mp hmarked, hmarked]

/-! ## Numerals of base sixteen -/

/-- Hexadecimal digits behind a marker of either case are a numeral of base sixteen. -/
theorem read_sixteen_of_hex {marker : Char} {digits : List Char} {n : Nat}
    (hmarker : marker = 'x' ∨ marker = 'X') (hne : digits ≠ []) (hvalue : value? digits = some n) :
    read 16 ('0' :: marker :: digits) = some (n : Int) := by
  have hlowered : value? (lowered digits) = some n := by
    rw [lowered, Text.HexWord.value?_map_toLower, hvalue]
  rw [← Text.Numeral.read_map_toLower, ← lowered, lowered_marked hmarker,
    Text.Numeral.read_of_marked (by simpa [lowered] using hne)
      (Text.HexWord.allHex_of_value? hlowered), hlowered]
  rfl

/-- Without the blanks around it a felt is a numeral of base sixteen.  Its number there is no
smaller in magnitude, and the same one only with a marker or below ten. -/
theorem exists_read_sixteen {text : List Char} {n : Int} (h : ofText text = .ok n) :
    ∃ v, read 16 (Text.trim text) = some v ∧ n.natAbs ≤ v.natAbs ∧
      (v = n ↔ Marked (Text.trim text) ∨ n.natAbs < 10) := by
  rcases ofText_eq_ok_iff.mp h with ⟨hmarked, hsixteen⟩ | ⟨hmarked, hten, _⟩
  · exact ⟨n, hsixteen, Nat.le_refl _, by simp [hmarked]⟩
  · obtain ⟨v, hv, hle, hsame⟩ := Text.Numeral.read_sixteen_of_ten hten
    exact ⟨v, hv, hle, by simp [hmarked, hsame]⟩

/-- In base sixteen a felt has its number exactly if there is no separator around it and it has a
marker or is below ten. -/
theorem read_sixteen_iff {text : List Char} {n : Int} (h : ofText text = .ok n) :
    read 16 text = some n ↔
      (∀ c ∈ text, isSeparator c = false) ∧ (Marked (Text.trim text) ∨ n.natAbs < 10) := by
  obtain ⟨v, hv, _, hsame⟩ := exists_read_sixteen h
  rw [← hsame]
  constructor
  · intro hread
    have hseparators := Text.Numeral.not_isSeparator_of_read hread
    rw [Text.Numeral.read_trim hseparators, hread, Option.some.injEq] at hv
    exact ⟨hseparators, hv.symm⟩
  · rintro ⟨hseparators, rfl⟩
    rw [← Text.Numeral.read_trim hseparators, hv]

/-- And if it has another number, then a larger one. -/
theorem natAbs_le_of_read_sixteen {text : List Char} {n v : Int} (h : ofText text = .ok n)
    (hread : read 16 text = some v) : n.natAbs ≤ v.natAbs := by
  obtain ⟨w, hw, hle, _⟩ := exists_read_sixteen h
  rw [Text.Numeral.read_trim (Text.Numeral.not_isSeparator_of_read hread), hread,
    Option.some.injEq] at hw
  rwa [hw]

/-! ## Hex words -/

/-- A hex word of any width is one digit or more behind at most one marker. -/
theorem parseHex_none_eq_ok_iff {s : String} {n : Nat} :
    parseHex none s = .ok n ↔
      digitsOf s.toList ≠ [] ∧ value? (digitsOf s.toList) = some n := by
  unfold parseHex
  dsimp only
  split
  · simp_all
  · split <;> simp_all

/-- Behind a marker the digits are the felt's. -/
theorem value?_of_ofText_marked {marker : Char} {digits : List Char} {n : Nat}
    (hmarker : marker = 'x' ∨ marker = 'X') (hhex : AllHex digits)
    (h : ofText ('0' :: marker :: digits) = .ok (n : Int)) :
    digits ≠ [] ∧ value? digits = some n := by
  have hne : digits ≠ [] := by
    rintro rfl
    rcases hmarker with rfl | rfl <;> cases h
  obtain ⟨m, hm, _⟩ := Text.HexWord.value?_eq_some_of_allHex hhex
  have hread := (ofText_of_hex hmarker hne hm).symm.trans h
  rw [Except.ok.injEq, Int.natCast_inj] at hread
  exact ⟨hne, by rw [hm, hread]⟩

/-- Without one they are read in base ten, and count as much in base sixteen only below ten. -/
theorem value?_of_ofText_unmarked {text : List Char} {n : Nat} (hhex : AllHex text)
    (h : ofText text = .ok (n : Int)) : text ≠ [] ∧ (value? text = some n ↔ n < 10) := by
  have hne : text ≠ [] := by
    rintro rfl
    cases h
  have htrim : Text.trim text = text := Text.trim_of_allHex hhex
  rw [ofText_eq_ok_iff, htrim] at h
  have hten := (h.resolve_left fun hmarked =>
    Text.HexWord.not_marked_of_allHex hhex hmarked.1).2.1
  obtain ⟨v, hv, _, hsame⟩ := Text.Numeral.read_sixteen_of_ten hten
  rw [Text.Numeral.read_of_allHex hne hhex, Option.map_eq_some_iff] at hv
  obtain ⟨m, hm, rfl⟩ := hv
  refine ⟨hne, ?_⟩
  rw [hm, Option.some.injEq, ← Int.natCast_inj, ← Int.natAbs_natCast n]
  exact hsame

/-- As a hex word a felt has its number exactly if it is made of digits, with a marker or below
ten. -/
theorem parseHex_none_iff {s : String} {n : Nat} (h : ofText s.toList = .ok (n : Int)) :
    parseHex none s = .ok n ↔
      AllHex (digitsOf s.toList) ∧ (Marked s.toList ∨ n < 10) := by
  by_cases hhex : AllHex (digitsOf s.toList)
  · rw [parseHex_none_eq_ok_iff]
    by_cases hmarked : Marked s.toList
    · obtain ⟨marker, digits, hmarker, htext⟩ := hmarked
      rw [htext, Text.HexWord.digitsOf_marked hmarker] at hhex ⊢
      rw [htext] at h
      have hdigits := value?_of_ofText_marked hmarker hhex h
      exact ⟨fun _ => ⟨hhex, .inl ⟨marker, digits, hmarker, rfl⟩⟩, fun _ => hdigits⟩
    · rw [Text.HexWord.digitsOf_of_not_marked hmarked] at hhex ⊢
      obtain ⟨hne, hvalue⟩ := value?_of_ofText_unmarked hhex h
      simp [hne, hvalue, hhex, hmarked]
  · simp [parseHex_of_not_allHex hhex, hhex]

end OracleIndexer.Felt
