import OracleIndexer.Proofs.Feed.Packing
import OracleIndexer.Proofs.Feed.Walk
import OracleIndexer.Text.LowerCase
set_option autoImplicit false

/-!
# Canonical feed ids

A canonical feed id is a marker and sixty-four hexadecimal digits, and its word is written as these
digits again.  The decoder marks sixty-four characters of the stream that read as an id.  Reading
passes over a marker, so these may start with one of their own; then what the decoder returns has
two markers and is no id any more.
-/

namespace OracleIndexer.Feed

open Text (AllHex)
open Text.HexWord (value? digitsOf Marked)

/-- A marker with sixty-four hexadecimal digits, which reads as an id whose word is written with
the same digits in small letters. -/
structure IsCanonical (entry : String) : Prop where
  digits : ∃ digits, digits.length = 64 ∧ AllHex digits ∧
    entry = String.ofList ('0' :: 'x' :: digits)
  rewritten : ∃ id word, Id.ofHex entry = .ok id ∧ id.toWord = .ok word ∧
    word.markedHex.toList = Text.lower entry.toList

theorem not_isCanonical_of_error {entry : String} {fault : CodecFault}
    (h : Id.ofHex entry = .error fault) : ¬ IsCanonical entry := by
  rintro ⟨_, id, _, hread, _⟩
  rw [h] at hread
  contradiction

/-- What the decoder returns for the characters of an id. -/
def entryOf (text : List Char) : String := String.ofList ('0' :: 'x' :: text)

theorem ofHex_entryOf {digits : List Char} (hlength : digits.length = 64) (h : AllHex digits) :
    ∃ word : Word256, value? digits = some word.toNat ∧
      Id.ofHex (entryOf digits) = .ok (Id.ofWord word) := by
  have hne : digits ≠ [] := List.ne_nil_of_length_pos (by omega)
  obtain ⟨word, hvalue, _⟩ := Word256.ofHex_of_allHex hne h (by omega)
  refine ⟨word, hvalue, ?_⟩
  rw [Id.ofHex, Word256.ofHex, entryOf, parseHex_of_marked (.inl rfl) hne (by omega) hvalue,
    Outcome.bind_ok, Word256.inRange_natCast word.isLt, Outcome.map_ok]

/-- Sixty-four hexadecimal digits are canonical behind a marker. -/
theorem isCanonical_entryOf {digits : List Char} (hlength : digits.length = 64)
    (h : AllHex digits) : IsCanonical (entryOf digits) := by
  obtain ⟨word, hvalue, hread⟩ := ofHex_entryOf hlength h
  have hascii : ∀ c ∈ '0' :: 'x' :: digits, c.toNat < 128 := by
    intro c hc
    rcases List.mem_cons.mp hc with rfl | hc
    · decide
    · rcases List.mem_cons.mp hc with rfl | hc
      · decide
      · have hprinted := (Text.printed_of_isHexDigit (h c hc)).1
        omega
  refine ⟨⟨digits, hlength, h, rfl⟩, Id.ofWord word, word, hread, Id.toWord_ofWord word, ?_⟩
  rw [Word256.markedHex, entryOf, String.toList_ofList, String.toList_ofList,
    Text.lower_of_ascii hascii, Word256.digits_eq_of_value? hlength hvalue]
  rfl

/-- A second marker is no digit. -/
theorem ofHex_entryOf_of_not_allHex {text : List Char} (h : ¬ AllHex text) :
    Id.ofHex (entryOf text) = .error (.notHexWord (entryOf text)) := by
  have hdigits : ¬ AllHex (digitsOf (entryOf text).toList) := by
    rwa [entryOf, String.toList_ofList, Text.HexWord.digitsOf_marked (.inl rfl)]
  rw [Id.ofHex, Word256.ofHex, parseHex_of_not_allHex hdigits]
  rfl

/-- Characters that read as an id are digits, unless they start with a marker. -/
theorem allHex_iff_not_marked {text : List Char} {id : Id}
    (h : Id.ofHex (String.ofList text) = .ok id) : AllHex text ↔ ¬ Marked text := by
  refine ⟨Text.HexWord.not_marked_of_allHex, ?_⟩
  intro hmarked
  obtain ⟨word, hword, _⟩ := Outcome.map_eq_ok_iff.mp h
  obtain ⟨n, hn, _⟩ := Outcome.bind_eq_ok_iff.mp hword
  have hhex := allHex_of_parseHex hn
  rwa [String.toList_ofList, Text.HexWord.digitsOf_of_not_marked hmarked] at hhex

/-! ## Decoded ids -/

/-- Sixty-four characters of a text that read as an id. -/
structure IsIdOf (rest text : List Char) : Prop where
  within : text <:+: rest
  width : text.length = 64
  reads : ∃ id, Id.ofHex (String.ofList text) = .ok id

theorem IsIdOf.mono {rest whole text : List Char} (h : IsIdOf rest text) (hrest : rest <:+: whole) :
    IsIdOf whole text :=
  ⟨h.within.trans hrest, h.width, h.reads⟩

theorem isIdOf_walk {table : Option SizeTable} {rest : List Char} {texts : List (List Char)}
    {sizes : List Nat} (h : Batch.Walk table rest texts sizes) :
    ∀ text ∈ texts, IsIdOf rest text := by
  induction h with
  | nil => simp
  | @cons rest size texts sizes sized fits more ih =>
    have hwidth : Id.width ≤ rest.length :=
      Nat.le_trans (Batch.width_le_of_sizeOfId sized) fits
    obtain ⟨id, hread, _⟩ := Outcome.bind_eq_ok_iff.mp sized
    have hfirst : IsIdOf rest (rest.take Id.width) :=
      ⟨(List.take_prefix _ _).isInfix, List.length_take_of_le hwidth, id,
        Outcome.mapError_eq_ok_iff.mp hread⟩
    refine List.forall_mem_cons.mpr ⟨hfirst, ?_⟩
    intro other hother
    exact (ih other hother).mono (List.drop_suffix size rest).isInfix

theorem isIdOf_decode {format : Format} {stream : List Char} {batch : Batch}
    (h : Batch.decode format stream = .ok batch) :
    ∀ entry ∈ batch.ids, ∃ text, entry = entryOf text ∧ IsIdOf stream text := by
  obtain ⟨_, texts, _, _, _, hwalk, _, rfl⟩ := Batch.decode_eq_ok_iff.mp h
  intro entry hentry
  obtain ⟨text, htext, rfl⟩ := List.mem_map.mp hentry
  exact ⟨text, rfl, (isIdOf_walk hwalk text htext).mono (List.drop_suffix _ _).isInfix⟩

/-- Each decoded entry is a marker and sixty-four characters of the stream.  It is canonical unless
these start with a marker of their own; then it has two markers and reads as no id. -/
theorem isCanonical_iff_of_decode {format : Format} {stream : List Char} {batch : Batch}
    (h : Batch.decode format stream = .ok batch) :
    ∀ entry ∈ batch.ids, ∃ text : List Char, text <:+: stream ∧ text.length = 64 ∧
      entry = entryOf text ∧ (IsCanonical entry ↔ ¬ Marked text) ∧
      (Marked text → Id.ofHex entry = .error (.notHexWord entry)) := by
  intro entry hentry
  obtain ⟨text, rfl, hwithin, hlength, id, hid⟩ := isIdOf_decode h entry hentry
  have hhex := allHex_iff_not_marked hid
  have hrefused : Marked text → Id.ofHex (entryOf text) = .error (.notHexWord (entryOf text)) :=
    fun hmarked => ofHex_entryOf_of_not_allHex fun hdigits => hhex.mp hdigits hmarked
  refine ⟨text, hwithin, hlength, rfl, ⟨?_, ?_⟩, hrefused⟩
  · intro hcanonical hmarked
    exact not_isCanonical_of_error (hrefused hmarked) hcanonical
  · intro hmarked
    exact isCanonical_entryOf hlength (hhex.mpr hmarked)

/-- The record of an id with letters of both cases. -/
private def lettersRecord : List Char :=
  List.replicate 8 '0' ++ ['A', 'b'] ++ List.replicate 204 '0'

/-- A message of one record whose id has letters of both cases holds one id, which is canonical. -/
theorem isCanonical_of_decode_letters :
    ∃ batch, Batch.decode ⟨some .assetClassGated, some .decimal⟩
        (['0', '0', '0', '1'] ++ lettersRecord) = .ok batch ∧
      batch.ids = [entryOf (lettersRecord.take 64)] ∧
      IsCanonical (entryOf (lettersRecord.take 64)) := by
  have hhex : AllHex (['0', '0', '0', '1'] ++ ([lettersRecord].flatten ++ [])) :=
    Text.allHex_iff_all.mpr (by decide)
  have hmessage : Wire.IsMessage .decimal .assetClassGated
      (['0', '0', '0', '1'] ++ ([lettersRecord].flatten ++ [])) ['0', '0', '0', '1']
      [lettersRecord] [] := by
    refine ⟨rfl, rfl, rfl, ?_⟩
    intro record hrecord
    rw [List.mem_singleton.mp hrecord]
    exact ⟨.inl ⟨rfl, rfl⟩, fun _ => rfl⟩
  have hdecode := Wire.decode_of_isMessage hhex hmessage
  rw [List.flatten_singleton, List.append_nil] at hdecode
  refine ⟨_, hdecode, rfl, ?_⟩
  obtain ⟨text, _, _, hentry, hcanonical, _⟩ := isCanonical_iff_of_decode hdecode
    (entryOf (lettersRecord.take 64)) (List.mem_singleton.mpr rfl)
  have htext : '0' :: 'x' :: lettersRecord.take 64 = '0' :: 'x' :: text :=
    String.ofList_injective hentry
  obtain rfl : lettersRecord.take 64 = text := by simpa using htext
  exact hcanonical.mpr (Text.HexWord.not_marked_of_allHex (Text.allHex_iff_all.mpr (by decide)))

/-- An id of zeros that starts with a marker. -/
private def markedId : List Char := '0' :: 'x' :: List.replicate 62 '0'

/-- A record with this id. -/
private def markedRecord : List Char := markedId ++ List.replicate 150 '0'

private theorem ofHex_markedId : Id.ofHex (String.ofList markedId) = .ok ⟨0, 0, 0, 0⟩ := by
  have hzero : value? (List.replicate 62 '0') = some 0 := by
    rw [← List.append_nil (List.replicate 62 '0'), Text.HexWord.value?_replicate_append]
    rfl
  have hparse : parseHex (some 64) (String.ofList markedId) = .ok 0 :=
    parseHex_of_marked (.inl rfl) (by simp) (by simp) hzero
  have hword : Word256.inRange (0 : Nat) = .ok ⟨0, Word256.lt_iff.mpr (by decide)⟩ :=
    Word256.inRange_natCast _
  have hfields : Id.ofWord ⟨0, Word256.lt_iff.mpr (by decide)⟩ = ⟨0, 0, 0, 0⟩ :=
    Id.ofWord_eq (by decide) (by decide) (by decide) rfl
  rw [Id.ofHex, Word256.ofHex, hparse, Outcome.bind_ok, hword, Outcome.map_ok, hfields]

private theorem record_markedRecord :
    Batch.record (some .assetClassGated) 4 markedRecord = .ok (markedId, 214) := by
  have hid : markedId.length = Id.width := by simp [markedId, Id.width]
  have hlength : markedRecord.length = 214 := by
    rw [markedRecord, List.length_append, hid, List.length_replicate]
    rfl
  have htake : markedRecord.take Id.width = markedId := List.take_left' hid
  have hsize : Batch.sizeOfId (some .assetClassGated) (markedRecord.take Id.width)
      = .ok 214 := by
    rw [htake, Batch.sizeOfId, ofHex_markedId]
    rfl
  rw [Batch.record_of_fits hsize (Nat.le_of_eq hlength.symm), htake]

/-- The decoder accepts an id with a marker of its own, and the entry that it returns is not
canonical. -/
theorem not_isCanonical_of_decode_marked :
    ∃ batch, Batch.decode ⟨some .assetClassGated, some .decimal⟩
        (['0', '0', '0', '1'] ++ markedRecord) = .ok batch ∧
      batch.ids = [entryOf markedId] ∧ ¬ IsCanonical (entryOf markedId) ∧
      Id.ofHex (entryOf markedId) = .error (.notHexWord (entryOf markedId)) := by
  have hcount : Text.HexWord.valueFrom CountRadix.decimal.base 0 ['0', '0', '0', '1']
      = some 1 := rfl
  have hhex : AllHex ['0', '0', '0', '1'] := Text.allHex_iff_all.mpr (by decide)
  have hdecode := @Wire.decode_of_count .decimal .assetClassGated _ markedRecord _ rfl hhex hcount
  have hrefused := @ofHex_entryOf_of_not_allHex markedId fun hdigits =>
    Text.HexWord.not_marked_of_allHex hdigits ⟨'x', _, .inl rfl, rfl⟩
  have hrecords : Batch.records (some .assetClassGated) 1 4 markedRecord
      = .ok ([markedId], markedRecord.drop 214) := by
    rw [Batch.records, record_markedRecord]
    rfl
  rw [hrecords, Outcome.map_ok] at hdecode
  exact ⟨_, hdecode, rfl, not_isCanonical_of_error hrefused, hrefused⟩

end OracleIndexer.Feed
