import OracleIndexer.Proofs.Record.Claim
import OracleIndexer.Proofs.Record.EntityKey
import OracleIndexer.Proofs.Text.LetterCase
set_option autoImplicit false

/-!
# The identifier of an assertion

The column of an identifier holds its digits behind the marker, without the zeros in front.  So it
tells identifiers apart by their number, and beyond that only by the case in which their letters are
written.  It reads as the number of the identifier unless that is zero: then all digits are dropped,
and a bare marker is no felt.
-/

namespace OracleIndexer

namespace Felt

open Text (letterCases)
open Text.HexWord (value?)

/-! ## Digits without zeros in front -/

/-- What is left of digits tells their number and the cases of their letters, and nothing else. -/
theorem dropWhile_zero_eq_iff {a b : List Char} {m n : Nat} (ha : value? a = some m)
    (hb : value? b = some n) :
    a.dropWhile (· == '0') = b.dropWhile (· == '0') ↔ m = n ∧ letterCases a = letterCases b := by
  constructor
  · intro heq
    have hvalue : value? a = value? b := by
      rw [← Text.HexWord.value?_dropWhile_zero a, heq, Text.HexWord.value?_dropWhile_zero]
    have hcases : letterCases a = letterCases b := by
      rw [← Text.letterCases_dropWhile_zero a, heq, Text.letterCases_dropWhile_zero]
    rw [ha, hb] at hvalue
    exact ⟨Option.some.inj hvalue, hcases⟩
  · rintro ⟨rfl, hcases⟩
    have hsmall : lowered (a.dropWhile (· == '0')) = lowered (b.dropWhile (· == '0')) := by
      rw [lowered_dropWhile_zero, lowered_dropWhile_zero]
      exact Text.HexWord.dropWhile_eq_of_value?_eq (isSmall_lowered a) (isSmall_lowered b)
        ((Text.HexWord.value?_map_toLower a).trans ha)
        ((Text.HexWord.value?_map_toLower b).trans hb)
    refine Text.eq_of_letterCases hsmall ?_
    rw [Text.letterCases_dropWhile_zero, Text.letterCases_dropWhile_zero, hcases]

/-! ## Felts behind the marker -/

theorem marked_inj {a b : List Char} : marked a = marked b ↔ a = b := by
  rw [marked, marked, Json.text.injEq, String.ofList_inj]
  simp

theorem value_marked {digits : List Char} {n : Nat} (hne : digits ≠ [])
    (h : value? digits = some n) : value (marked digits) = .ok (n : Int) :=
  value_of_writes (.hex (.inl rfl) hne h)

/-- A bare marker is no felt. -/
theorem value_marked_nil : ∃ fault, value (marked []) = .error fault := ⟨_, rfl⟩

/-- Without the zeros in front digits read as the same felt, as long as one is left. -/
theorem value_marked_dropWhile_iff {digits : List Char} {n : Nat} (h : value? digits = some n) :
    value (marked (digits.dropWhile (· == '0'))) = .ok (n : Int) ↔ n ≠ 0 := by
  rw [ne_eq, ← Text.HexWord.dropWhile_zero_eq_nil_iff h]
  constructor
  · intro hvalue hnil
    obtain ⟨fault, hfault⟩ := value_marked_nil
    rw [hnil, hfault] at hvalue
    cases hvalue
  · intro hne
    exact value_marked hne ((Text.HexWord.value?_dropWhile_zero digits).trans h)

end Felt

/-! ## The column -/

namespace Record

open Felt (marked)
open Text (letterCases)
open Text.HexWord (value?)

/-- An event that makes an assertion, and whose identifier is a number in hexadecimal digits. -/
structure Identifies (header : Block.Header) (item : Block.Item) (context : Context)
    (digits : List Char) (n : Nat) : Prop where
  made : ∃ made, Makes header item context made ∧ made.identifier = marked digits
  nonempty : digits ≠ []
  value : value? digits = some n

/-- The identifier's column holds the digits without the zeros in front. -/
theorem insert_of_identifies {header : Block.Header} {item : Block.Item} {context : Context}
    {digits : List Char} {n : Nat} (h : Identifies header item context digits n) :
    ∃ row : Columns, assertion header item context = .ok [.insert row] ∧
      row.lookup "identifier" = some (marked (digits.dropWhile (· == '0'))) := by
  obtain ⟨made, hmade, hidentifier⟩ := h.made
  obtain ⟨row, hinsert, hholds⟩ := insert_of_makes hmade
  obtain ⟨column, htrimmed, hcolumn⟩ := hholds.identifier
  rw [hidentifier, Felt.trimmed_marked, Except.ok.injEq] at htrimmed
  exact ⟨row, hinsert, htrimmed ▸ hcolumn⟩

/-- The identifier's column is a text that reads as the identifier does exactly if that is not zero;
otherwise it is no felt.  Two identifiers give one column exactly if they are one number and write
their letters in the same cases. -/
theorem identifier_keeps_value_iff {header : Block.Header} {item : Block.Item} {context : Context}
    {digits : List Char} {n : Nat} (h : Identifies header item context digits n) :
    ∃ row s, assertion header item context = .ok [.insert row] ∧
      row.lookup "identifier" = some (.text s) ∧
      Felt.value (marked digits) = .ok (n : Int) ∧
      (Felt.value (.text s) = .ok (n : Int) ↔ n ≠ 0) ∧
      (n = 0 → ∃ fault, Felt.value (.text s) = .error fault) ∧
      ∀ {next : Block.Header} {later : Block.Item} {other : Context} {more : List Char} {m : Nat},
        Identifies next later other more m →
        ∃ row' s', assertion next later other = .ok [.insert row'] ∧
          row'.lookup "identifier" = some (.text s') ∧
          (s = s' ↔ n = m ∧ letterCases digits = letterCases more) := by
  obtain ⟨row, hinsert, hcolumn⟩ := insert_of_identifies h
  refine ⟨row, _, hinsert, hcolumn, Felt.value_marked h.nonempty h.value,
    Felt.value_marked_dropWhile_iff h.value, ?_, ?_⟩
  · intro hzero
    rw [(Text.HexWord.dropWhile_zero_eq_nil_iff h.value).mpr hzero]
    exact Felt.value_marked_nil
  · intro next later other more m hlater
    obtain ⟨row', hinsert', hcolumn'⟩ := insert_of_identifies hlater
    refine ⟨row', _, hinsert', hcolumn', ?_⟩
    rw [← Felt.dropWhile_zero_eq_iff h.value hlater.value, ← Felt.marked_inj, marked, marked,
      Json.text.injEq]

/-- A new assertion without a claim, under some digits. -/
private def identifiedBy (digits : List Char) : Payload.AssertionMade :=
  { Payload.AssertionMade.plain with identifier := marked digits }

private def identifierItem (digits : List Char) : Block.Item :=
  bareItem assertionMadeSelector ((identifiedBy digits).felts (.text "0x0") (.text "0x0") [])

private theorem identifies_identifierItem (digits : List Char) {n : Nat} (hne : digits ≠ [])
    (h : value? digits = some n) :
    Identifies ⟨7, .null, .null⟩ (identifierItem digits) ⟨"net", ⟨none, none⟩⟩ digits n where
  made := by
    obtain ⟨columns, hcolumns, _⟩ := exists_assertionColumns (identifiedBy digits)
      claimWords_plain concatenated_bare (dataId_bareItem _ _) domainId_plain expiration_plain
      bond_plain (Felt.trimmed_marked digits) ⟨7, .null, .null⟩ ⟨"net", ⟨none, none⟩⟩
    refine ⟨identifiedBy digits, ⟨selected_bareItem _, ?_, columns, hcolumns⟩, rfl⟩
    exact Payload.AssertionMade.ofData_felts Payload.AssertionMade.counted?_zero rfl _ _
  nonempty := hne
  value := h

/-- The outputs of that item. -/
private def identifierOutputs (digits : List Char) : Outcome (List Output) :=
  assertion ⟨7, .null, .null⟩ (identifierItem digits) ⟨"net", ⟨none, none⟩⟩

/-- An identifier with zeros in front and the same one without: both columns are one text, which
reads as the number. -/
theorem identifier_keeps_value_padded :
    Identifies ⟨7, .null, .null⟩ (identifierItem ['0', '0', 'a', 'B', '0']) ⟨"net", ⟨none, none⟩⟩
      ['0', '0', 'a', 'B', '0'] 0xab0 ∧
    Identifies ⟨7, .null, .null⟩ (identifierItem ['a', 'B', '0']) ⟨"net", ⟨none, none⟩⟩
      ['a', 'B', '0'] 0xab0 ∧
    ∃ row row' s, identifierOutputs ['0', '0', 'a', 'B', '0'] = .ok [.insert row] ∧
      identifierOutputs ['a', 'B', '0'] = .ok [.insert row'] ∧
      row.lookup "identifier" = some (.text s) ∧ row'.lookup "identifier" = some (.text s) ∧
      Felt.value (.text s) = .ok 0xab0 := by
  have hpadded := identifies_identifierItem ['0', '0', 'a', 'B', '0'] (n := 0xab0) (by decide)
    (by decide)
  have hplain := identifies_identifierItem ['a', 'B', '0'] (n := 0xab0) (by decide) (by decide)
  obtain ⟨row, s, hinsert, hcolumn, _, hreads, _, halike⟩ := identifier_keeps_value_iff hpadded
  obtain ⟨row', s', hinsert', hcolumn', hsame⟩ := halike hplain
  obtain rfl : s = s' := hsame.mpr ⟨rfl, by decide⟩
  exact ⟨hpadded, hplain, row, row', s, hinsert, hinsert', hcolumn, hcolumn',
    hreads.mpr (by decide)⟩

/-- The identifier zero is a felt, and its column is a bare marker, which is none. -/
theorem identifier_zero_lost :
    Identifies ⟨7, .null, .null⟩ (identifierItem ['0']) ⟨"net", ⟨none, none⟩⟩ ['0'] 0 ∧
    Felt.value (.text "0x0") = .ok 0 ∧
    (∃ row, identifierOutputs ['0'] = .ok [.insert row] ∧
      row.lookup "identifier" = some (.text "0x")) ∧
    ∃ fault, Felt.value (.text "0x") = .error fault := by
  have hzero := identifies_identifierItem ['0'] (n := 0) (by decide) (by decide)
  obtain ⟨row, hinsert, hcolumn⟩ := insert_of_identifies hzero
  exact ⟨hzero, rfl, ⟨row, hinsert, hcolumn⟩, Felt.value_marked_nil⟩

end Record

end OracleIndexer
