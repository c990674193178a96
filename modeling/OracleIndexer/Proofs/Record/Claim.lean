import Mathlib.Data.List.Forall2
import OracleIndexer.Proofs.Felt.Bytes
import OracleIndexer.Proofs.Payload.AssertionFelts
import OracleIndexer.Proofs.Record.Columns
set_option autoImplicit false

/-!
# The claim of an assertion

A claim is a byte string that comes in words of 31 bytes and a word of the bytes left over.  Its
column joins the digits of the full words as they are written, and those of the word left over
without the zeros in front.  So digits are too many where a full word is padded, and too few where
a word starts with a zero that is not padding.
-/

namespace OracleIndexer

open Text.HexWord (value?)

namespace Felt

/-- Digits behind the marker, as a felt. -/
def marked (digits : List Char) : Json := .text (String.ofList ('0' :: 'x' :: digits))

theorem trimmed_marked (digits : List Char) :
    trimmed (marked digits) = .ok (marked (digits.dropWhile (· == '0'))) := by
  simp [trimmed, marked, withoutPadding]

theorem atLast_append_singleton (f : Json → Outcome Json) (front : List Json) {last done : Json}
    (h : f last = .ok done) : atLast f (front ++ [last]) = .ok (front ++ [done]) := by
  induction front with
  | nil => simp [atLast, h]
  | cons word rest ih =>
    cases rest with
    | nil => simp [atLast, h]
    | cons next more =>
      rw [List.cons_append, List.cons_append] at ih ⊢
      rw [atLast, ih]
      rfl

theorem concatenated_marked (words : List (List Char)) :
    concatenated (words.map marked) = .ok words.flatten := by
  induction words with
  | nil => rfl
  | cons digits rest ih =>
    rw [List.map_cons, marked, concatenated, ih, String.toList_ofList,
      Text.HexWord.dropMarker_marked]
    rfl

end Felt

/-! ## Byte strings in words -/

namespace Claim

open Felt (hexText ofBytes lowered)

/-- The full words of a byte string. -/
def fullWords (bytes : List UInt8) : List (List UInt8) :=
  (List.range (bytes.length / 31)).map fun i => (bytes.drop (31 * i)).take 31

/-- The bytes left over behind the full words. -/
def leftOver (bytes : List UInt8) : List UInt8 := bytes.drop (31 * (bytes.length / 31))

/-- Digits that hold a byte string: those of each full word and those of the bytes left over. -/
structure Holds (bytes : List UInt8) (full : List (List Char)) (rest : List Char) : Prop where
  full : List.Forall₂ (fun word digits => value? digits = some (ofBytes word))
    (fullWords bytes) full
  rest : value? rest = some (ofBytes (leftOver bytes))

/-- The digits that become of the words: full words as they are, the last without zeros in front. -/
def joined (full : List (List Char)) (rest : List Char) : List Char :=
  full.flatten ++ rest.dropWhile (· == '0')

theorem flatten_words (bytes : List UInt8) (n : Nat) :
    ((List.range n).map fun i => (bytes.drop (31 * i)).take 31).flatten
      = bytes.take (31 * n) := by
  induction n with
  | zero => simp
  | succ n ih =>
    rw [List.range_succ, List.map_append, List.flatten_append, ih, Nat.mul_succ, List.take_add]
    simp

theorem flatten_fullWords_append_leftOver (bytes : List UInt8) :
    (fullWords bytes).flatten ++ leftOver bytes = bytes := by
  rw [fullWords, flatten_words, leftOver, List.take_append_drop]

theorem length_of_mem_fullWords {bytes word : List UInt8} (h : word ∈ fullWords bytes) :
    word.length = 31 := by
  obtain ⟨i, hi, rfl⟩ := List.mem_map.mp h
  rw [List.mem_range] at hi
  rw [List.length_take, List.length_drop]
  omega

theorem length_fullWords (bytes : List UInt8) : (fullWords bytes).length = bytes.length / 31 := by
  simp [fullWords]

theorem length_eq_words (bytes : List UInt8) :
    bytes.length = 31 * (fullWords bytes).length + (leftOver bytes).length := by
  rw [length_fullWords, leftOver, List.length_drop]
  omega

/-! ## When the digits are those of the bytes -/

/-- Full words that are written with the digits of their bytes are joined to those of all. -/
theorem lowered_flatten_of_full {words : List (List UInt8)} {full : List (List Char)}
    (h : List.Forall₂ (fun word digits => value? digits = some (ofBytes word)) words full)
    (hwords : ∀ word ∈ words, word.length = 31) (hfull : ∀ digits ∈ full, digits.length = 62) :
    lowered full.flatten = hexText words.flatten := by
  induction h with
  | nil => rfl
  | @cons word digits words full hvalue _ ih =>
    obtain ⟨hword, hmore⟩ := List.forall_mem_cons.mp hwords
    obtain ⟨hdigits, hrest⟩ := List.forall_mem_cons.mp hfull
    have hfirst : lowered digits = hexText word :=
      (Felt.lowered_eq_hexText_iff hvalue).mpr (by omega)
    rw [List.flatten_cons, List.flatten_cons, Felt.lowered_append, Felt.hexText_append, hfirst,
      ih hmore hrest]

theorem length_flatten_le {α : Type} {bound : Nat} {pieces : List (List α)}
    (h : ∀ piece ∈ pieces, piece.length ≤ bound) :
    pieces.flatten.length ≤ bound * pieces.length := by
  induction pieces with
  | nil => simp
  | cons piece rest ih =>
    obtain ⟨hpiece, hrest⟩ := List.forall_mem_cons.mp h
    have hmore := ih hrest
    rw [List.flatten_cons, List.length_append, List.length_cons, Nat.mul_succ]
    omega

/-- Pieces of bounded length that are as long together as they can be have the greatest length. -/
theorem length_eq_of_flatten {α : Type} {bound : Nat} {pieces : List (List α)}
    (h : ∀ piece ∈ pieces, piece.length ≤ bound)
    (htotal : pieces.flatten.length = bound * pieces.length) :
    ∀ piece ∈ pieces, piece.length = bound := by
  induction pieces with
  | nil => simp
  | cons piece rest ih =>
    obtain ⟨hpiece, hrest⟩ := List.forall_mem_cons.mp h
    have hmore := length_flatten_le hrest
    rw [List.flatten_cons, List.length_append, List.length_cons, Nat.mul_succ] at htotal
    exact List.forall_mem_cons.mpr ⟨by omega, ih hrest (by omega)⟩

section

variable {bytes : List UInt8} {full : List (List Char)} {rest : List Char}

theorem joined_of_each (h : Holds bytes full rest) (hfull : ∀ digits ∈ full, digits.length = 62)
    (hrest : ∀ byte ∈ (leftOver bytes).head?, 16 ≤ byte.toNat) :
    lowered (joined full rest) = hexText bytes := by
  have hlast : lowered (rest.dropWhile (· == '0')) = hexText (leftOver bytes) :=
    (Felt.lowered_dropWhile_of_value? h.rest).trans
      ((Felt.dropWhile_hexText_eq_self_iff _).mpr hrest)
  rw [joined, Felt.lowered_append, hlast,
    lowered_flatten_of_full h.full (fun _ => length_of_mem_fullWords) hfull,
    ← Felt.hexText_append, flatten_fullWords_append_leftOver]

/-- Words that are not padded beyond their bytes are joined to the digits of the byte string exactly
if no full word has lost a zero, and the bytes left over start with no zero digit. -/
theorem joined_eq_hexText_iff (h : Holds bytes full rest)
    (hbound : ∀ digits ∈ full, digits.length ≤ 62) :
    lowered (joined full rest) = hexText bytes ↔
      (∀ digits ∈ full, digits.length = 62) ∧
        ∀ byte ∈ (leftOver bytes).head?, 16 ≤ byte.toNat := by
  constructor
  · intro hjoined
    have hlast := Felt.lowered_dropWhile_of_value? h.rest
    -- neither part can be longer than the digits of its bytes, so both are as long as those
    have hparts : full.flatten.length + (rest.dropWhile (· == '0')).length = 2 * bytes.length := by
      rw [← Felt.length_hexText, ← hjoined, lowered, List.length_map, joined, List.length_append]
    have hcount : full.length = (fullWords bytes).length := h.full.length_eq.symm
    have hfront : full.flatten.length ≤ 62 * full.length := length_flatten_le hbound
    have hback : (rest.dropWhile (· == '0')).length
        = ((hexText (leftOver bytes)).dropWhile (· == '0')).length := by
      rw [← hlast, lowered, List.length_map]
    have hdrop := List.length_dropWhile_le (· == '0') (hexText (leftOver bytes))
    have hleft := Felt.length_hexText (leftOver bytes)
    have htotal := length_eq_words bytes
    refine ⟨length_eq_of_flatten hbound (by omega), ?_⟩
    rw [← Felt.dropWhile_hexText_eq_self_iff]
    exact (List.dropWhile_suffix _).eq_of_length (by omega)
  · rintro ⟨hfull, hrest⟩
    exact joined_of_each h hfull hrest

/-- A first word that is padded to 64 digits puts two zeros in front, which only a byte string that
starts with a zero has there. -/
theorem head?_eq_zero_of_padded (h : Holds bytes full rest) {digits : List Char}
    (hfirst : digits ∈ full.head?) (hlength : digits.length = 64)
    (hjoined : lowered (joined full rest) = hexText bytes) : bytes.head? = some 0 := by
  obtain ⟨more, rfl⟩ := List.head?_eq_some_iff.mp hfirst
  obtain ⟨word, words, hvalue, _, hwords⟩ := List.forall₂_cons_right_iff.mp h.full
  have hword : word.length = 31 := length_of_mem_fullWords (hwords ▸ List.mem_cons_self)
  have hdigits : lowered digits = '0' :: '0' :: hexText word := by
    have hlowered : (lowered digits).length = 64 := by rw [lowered, List.length_map, hlength]
    have htext : (hexText word).length = 62 := by rw [Felt.length_hexText, hword]
    have hzeros := Text.HexWord.eq_replicate_append_of_value?_eq (by omega)
      (Felt.isSmall_lowered digits) (Felt.isSmall_hexText word)
      ((Text.HexWord.value?_map_toLower digits).trans hvalue) (Felt.value?_hexText word)
    rwa [hlowered, htext] at hzeros
  rw [joined, List.flatten_cons, Felt.lowered_append, Felt.lowered_append, hdigits] at hjoined
  cases bytes with
  | nil => cases hjoined
  | cons byte others =>
    have hbyte : byte.toNat < 256 := byte.toNat_lt
    rw [Felt.hexText_cons] at hjoined
    obtain ⟨hhigh, htail⟩ := List.cons.inj hjoined
    obtain ⟨hlow, _⟩ := List.cons.inj htail
    have hhigh := Nat.digitChar_eq_zero.mp hhigh.symm
    have hlow := Nat.digitChar_eq_zero.mp hlow.symm
    have hzero : byte = 0 := UInt8.toNat_inj.mp (by rw [UInt8.toNat_zero]; omega)
    rw [hzero, List.head?_cons]

end

end Claim

/-! ## The claim's column -/

namespace Record

open Felt (hexText lowered marked)

/-- An event of a new assertion whose claim is a byte string, held by digits; its count is one in
hexadecimal digits, and its other felts can be read. -/
structure Asserts (item : Block.Item) (made : Payload.AssertionMade) (bytes : List UInt8)
    (full : List (List Char)) (rest : List Char) : Prop where
  selected : Felt.same item.event.selector (.text assertionMadeSelector) = .ok true
  data : ∃ count length behind, count ≠ [] ∧ value? count = some (bytes.length / 31) ∧
    item.event.data = made.felts (marked count) length behind
  words : made.claimWords = (full ++ [rest]).map marked
  holds : Claim.Holds bytes full rest
  domainId : ∃ domainId, Felt.amount made.domainIdLow made.domainIdHigh = .ok domainId
  expiration : ∃ expiration, Timestamp.ofSeconds made.expirationTimestamp = .ok expiration
  bond : ∃ bond, Felt.amount made.bondLow made.bondHigh = .ok bond
  identifier : ∃ identifier, made.identifier = .text identifier
  row : ∃ id, dataId item = .ok id

theorem ofData_of_asserts {item : Block.Item} {made : Payload.AssertionMade}
    {bytes : List UInt8} {full : List (List Char)} {rest : List Char}
    (h : Asserts item made bytes full rest) :
    Payload.AssertionMade.ofData item.event.data = .ok made := by
  obtain ⟨count, length, behind, hne, hcount, hdata⟩ := h.data
  have hcounted : Payload.AssertionMade.counted? (marked count)
      = some ((bytes.length / 31 : Nat) : Int) := by
    rw [marked, Payload.AssertionMade.counted?_text, String.toList_ofList,
      Text.Numeral.read_of_marked hne (Text.HexWord.allHex_of_value? hcount), hcount,
      Option.map_some, Int.ofNat_eq_natCast]
  have hwords : made.claimWords.length = bytes.length / 31 + 1 := by
    rw [h.words, List.length_map, List.length_append, List.length_singleton,
      ← h.holds.full.length_eq, Claim.length_fullWords]
  rw [hdata, Payload.AssertionMade.ofData_felts hcounted hwords]

/-- The column of the claim is made of the digits as they are written. -/
theorem insert_of_asserts {item : Block.Item} {made : Payload.AssertionMade}
    {bytes : List UInt8} {full : List (List Char)} {rest : List Char}
    (h : Asserts item made bytes full rest) (header : Block.Header) (context : Context) :
    ∃ columns, assertion header item context = .ok [.insert columns] ∧
      columns.lookup "claim" = some (.text (String.ofList (Claim.joined full rest))) := by
  obtain ⟨domainId, hdomainId⟩ := h.domainId
  obtain ⟨expiration, hexpiration⟩ := h.expiration
  obtain ⟨bond, hbond⟩ := h.bond
  obtain ⟨identifier, hidentifier⟩ := h.identifier
  obtain ⟨id, hid⟩ := h.row
  have htrimmed : ∃ trimmed, Felt.trimmed made.identifier = .ok trimmed := by
    rw [hidentifier]
    exact ⟨_, rfl⟩
  obtain ⟨trimmed, htrimmed⟩ := htrimmed
  have hlast : Felt.atLast Felt.trimmed made.claimWords
      = .ok ((full ++ [rest.dropWhile (· == '0')]).map marked) := by
    rw [h.words, List.map_append, List.map_append]
    exact Felt.atLast_append_singleton _ _ (Felt.trimmed_marked rest)
  have hclaim : Felt.concatenated ((full ++ [rest.dropWhile (· == '0')]).map marked)
      = .ok (Claim.joined full rest) := by
    rw [Felt.concatenated_marked, Claim.joined]
    simp
  obtain ⟨columns, hcolumns, hlookup⟩ := exists_assertionColumns made hlast hclaim hid
    hdomainId hexpiration hbond htrimmed header context
  refine ⟨columns, ?_, hlookup⟩
  simp only [assertion, h.selected, assertionInsert, ofData_of_asserts h, hcolumns,
    Outcome.ok_bind, if_true, Outcome.pure_eq_ok]

/-- A new assertion becomes one row to insert.  The claim's column joins the digits of the full
words as they are written and those of the bytes left over without zeros in front.  If no full word
has more digits than its bytes, these are the digits of the claim exactly if none has fewer and the
bytes left over start with no zero digit.  If the first full word is padded to 64 digits, they are
not unless the claim starts with a zero. -/
theorem claim_of_asserts {item : Block.Item} {made : Payload.AssertionMade} {bytes : List UInt8}
    {full : List (List Char)} {rest : List Char} (h : Asserts item made bytes full rest)
    (header : Block.Header) (context : Context) :
    ∃ columns, assertion header item context = .ok [.insert columns] ∧
      columns.lookup "claim" = some (.text (String.ofList (Claim.joined full rest))) ∧
      ((∀ digits ∈ full, digits.length ≤ 62) →
        (lowered (Claim.joined full rest) = hexText bytes ↔
          (∀ digits ∈ full, digits.length = 62) ∧
            ∀ byte ∈ (Claim.leftOver bytes).head?, 16 ≤ byte.toNat)) ∧
      ∀ digits ∈ full.head?, digits.length = 64 →
        lowered (Claim.joined full rest) = hexText bytes → bytes.head? = some 0 := by
  obtain ⟨columns, hinsert, hclaim⟩ := insert_of_asserts h header context
  refine ⟨columns, hinsert, hclaim, Claim.joined_eq_hexText_iff h.holds, ?_⟩
  intro digits hfirst hlength hjoined
  exact Claim.head?_eq_zero_of_padded h.holds hfirst hlength hjoined

/-- A new assertion with some claim words. -/
private def madeWith (full : List (List Char)) (rest : List Char) : Payload.AssertionMade :=
  { Payload.AssertionMade.plain with claimWords := (full ++ [rest]).map marked }

/-- The item of a new assertion that claims a byte string in some words. -/
private def itemOf (bytes : List UInt8) (full : List (List Char)) (rest : List Char) :
    Block.Item :=
  bareItem assertionMadeSelector
    ((madeWith full rest).felts (marked (Nat.toDigits 16 (bytes.length / 31)))
      (marked (Nat.toDigits 16 (Claim.leftOver bytes).length)) [])

private theorem asserts_itemOf {bytes : List UInt8} {full : List (List Char)} {rest : List Char}
    (h : Claim.Holds bytes full rest) :
    Asserts (itemOf bytes full rest) (madeWith full rest) bytes full rest where
  selected := selected_bareItem _
  data := ⟨_, _, _, Nat.toDigits_ne_nil, Text.HexWord.value?_toDigits _, rfl⟩
  words := rfl
  holds := h
  domainId := ⟨_, domainId_plain⟩
  expiration := ⟨_, expiration_plain⟩
  bond := ⟨_, bond_plain⟩
  identifier := ⟨_, rfl⟩
  row := ⟨_, dataId_bareItem _ _⟩

/-- The digits of a word of 31 letters. -/
private def lettersWord : List Char := hexText (List.replicate 31 97)

private theorem value?_lettersWord :
    value? lettersWord = some (Felt.ofBytes (List.replicate 31 97)) := Felt.value?_hexText _

/-- A claim of 32 letters, its full word in the digits of its bytes and the last letter behind
zeros, is recovered. -/
theorem claim_of_asserts_letters :
    Asserts (itemOf (List.replicate 32 97) [lettersWord] ['0', '0', '6', '1'])
      (madeWith [lettersWord] ['0', '0', '6', '1']) (List.replicate 32 97) [lettersWord]
      ['0', '0', '6', '1'] ∧
    ∃ columns claim, assertion ⟨7, .null, .null⟩
        (itemOf (List.replicate 32 97) [lettersWord] ['0', '0', '6', '1']) ⟨"net", ⟨none, none⟩⟩
        = .ok [.insert columns] ∧
      columns.lookup "claim" = some (.text (String.ofList claim)) ∧
      lowered claim = hexText (List.replicate 32 97) := by
  have hholds : Claim.Holds (List.replicate 32 97) [lettersWord] ['0', '0', '6', '1'] :=
    ⟨.cons value?_lettersWord .nil, by decide⟩
  have hasserts := asserts_itemOf hholds
  obtain ⟨columns, hinsert, hclaim, hrecovered, _⟩ :=
    claim_of_asserts hasserts ⟨7, .null, .null⟩ ⟨"net", ⟨none, none⟩⟩
  have hlength : lettersWord.length = 62 := Felt.length_hexText _
  refine ⟨hasserts, columns, _, hinsert, hclaim, (hrecovered ?bound).mpr ⟨?full, ?rest⟩⟩
  case bound => simp [hlength]
  case full => simp [hlength]
  case rest => simp [Claim.leftOver]

/-- Not every claim is recovered: that of a line feed loses its zero, and that of 31 letters gets
two zeros in front when its word is padded to 64 digits. -/
theorem claim_not_recovered :
    (Asserts (itemOf [10] [] ['a']) (madeWith [] ['a']) [10] [] ['a'] ∧
      ∃ columns, assertion ⟨7, .null, .null⟩ (itemOf [10] [] ['a']) ⟨"net", ⟨none, none⟩⟩
          = .ok [.insert columns] ∧
        columns.lookup "claim" = some (.text "a") ∧ hexText [10] = ['0', 'a']) ∧
    (Asserts (itemOf (List.replicate 31 97) ['0' :: '0' :: lettersWord] ['0'])
        (madeWith ['0' :: '0' :: lettersWord] ['0']) (List.replicate 31 97)
        ['0' :: '0' :: lettersWord] ['0'] ∧
      ∃ columns, assertion ⟨7, .null, .null⟩
          (itemOf (List.replicate 31 97) ['0' :: '0' :: lettersWord] ['0'])
          ⟨"net", ⟨none, none⟩⟩ = .ok [.insert columns] ∧
        columns.lookup "claim" = some (.text (String.ofList ('0' :: '0' :: lettersWord))) ∧
        '0' :: '0' :: lettersWord ≠ hexText (List.replicate 31 97)) := by
  constructor
  · have hholds : Claim.Holds [10] [] ['a'] := ⟨.nil, by decide⟩
    have hasserts := asserts_itemOf hholds
    obtain ⟨columns, hinsert, hclaim⟩ :=
      insert_of_asserts hasserts ⟨7, .null, .null⟩ ⟨"net", ⟨none, none⟩⟩
    exact ⟨hasserts, columns, hinsert, hclaim, by decide⟩
  · have hpadded : value? ('0' :: '0' :: lettersWord)
        = some (Felt.ofBytes (List.replicate 31 97)) :=
      (Text.HexWord.value?_replicate_append 2 lettersWord).trans value?_lettersWord
    have hholds : Claim.Holds (List.replicate 31 97) ['0' :: '0' :: lettersWord] ['0'] :=
      ⟨.cons hpadded .nil, by decide⟩
    have hasserts := asserts_itemOf hholds
    obtain ⟨columns, hinsert, hclaim⟩ :=
      insert_of_asserts hasserts ⟨7, .null, .null⟩ ⟨"net", ⟨none, none⟩⟩
    refine ⟨hasserts, columns, hinsert, hclaim, ?_⟩
    intro heq
    have hlengths := congrArg List.length heq
    simp [lettersWord, Felt.length_hexText] at hlengths

end Record

end OracleIndexer
