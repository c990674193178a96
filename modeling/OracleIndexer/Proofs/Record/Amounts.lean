import OracleIndexer.Proofs.Felt.Rereading
import OracleIndexer.Proofs.Record.Columns
set_option autoImplicit false

/-!
# Amounts of 256 bits

The halves of an amount are not read as felts.  A text among them is a hex word, so only a plain
writing of a half counts as the felt does: the number itself, digits behind a marker, or digits of a
number below ten.  The amount, and a column of an assertion that holds one, is exact for such
writings and for no other.
-/

namespace OracleIndexer

open Text (AllHex)
open Text.HexWord (Marked digitsOf)

namespace Felt

/-! ## Halves -/

/-- The writings of a number that both readers understand alike. -/
inductive Plain (n : Nat) : Json → Prop
  /-- the number itself -/
  | whole : Plain n (.int n)
  /-- digits behind a marker -/
  | marked {s : String} (digits : AllHex (digitsOf s.toList)) (marked : Marked s.toList) :
    Plain n (.text s)
  /-- digits of a small number -/
  | small {s : String} (digits : AllHex s.toList) (small : n < 10) : Plain n (.text s)

theorem plain_text_iff {n : Nat} {s : String} :
    Plain n (.text s) ↔ AllHex (digitsOf s.toList) ∧ (Marked s.toList ∨ n < 10) := by
  constructor
  · intro h
    cases h with
    | marked digits marked => exact ⟨digits, .inl marked⟩
    | small digits small =>
      rw [Text.HexWord.digitsOf_of_allHex digits]
      exact ⟨digits, .inr small⟩
  · rintro ⟨hdigits, hform⟩
    by_cases hmarked : Marked s.toList
    · exact .marked hdigits hmarked
    · rw [Text.HexWord.digitsOf_of_not_marked hmarked] at hdigits
      exact .small hdigits (hform.resolve_left hmarked)

/-- An operand has the number of the felt exactly if it is plainly written. -/
theorem number_document_iff {felt : Json} {n : Nat} (hheld : Held felt)
    (hvalue : value felt = .ok (n : Int)) :
    (Word256.Operand.document felt).number = .ok (n : Int) ↔ Plain n felt := by
  cases hheld with
  | text s =>
    rw [value_text] at hvalue
    rw [plain_text_iff, ← parseHex_none_iff hvalue, Word256.Operand.number,
      Outcome.map_eq_ok_iff]
    simp
  | whole k =>
    rw [value_int, Except.ok.injEq] at hvalue
    subst hvalue
    exact iff_of_true rfl .whole

/-! ## Amounts -/

/-- An amount is exact if both halves are plainly written, and otherwise refused or another. -/
theorem amount_iff {low high : Json} {l h : Nat} (hlow : Held low) (hhigh : Held high)
    (hl : value low = .ok (l : Int)) (hh : value high = .ok (h : Int)) (hlRange : l < 2 ^ 128)
    (hhRange : h < 2 ^ 128) :
    amount low high = .ok (toString (l + 2 ^ 128 * h)) ↔ Plain l low ∧ Plain h high := by
  rw [amount, Outcome.map_eq_ok_iff,
    ← number_document_iff hlow hl, ← number_document_iff hhigh hh]
  constructor
  · rintro ⟨w, hw, htext⟩
    obtain ⟨lo, hi, hlo, hhi, hloRange, hhiRange, hword⟩ := Word256.compose_eq_ok_iff.mp hw
    have hsum : w.toNat = l + 2 ^ 128 * h := Word256.toNat_of_decimal htext
    obtain ⟨rfl, rfl⟩ : l = lo ∧ h = hi := by omega
    exact ⟨hlo, hhi⟩
  · rintro ⟨hlo, hhi⟩
    have hrange : l + 2 ^ 128 * h < 1 <<< 256 := by
      rw [Word256.lt_iff]
      omega
    refine ⟨⟨_, hrange⟩, Word256.compose_eq_ok_iff.mpr ?_, rfl⟩
    exact ⟨l, h, hlo, hhi, hlRange, hhRange, rfl⟩

end Felt

/-! ## The columns of an assertion -/

namespace Record

/-- An amount, alone and in the columns of an assertion that hold it, is the decimal text of what
its halves are as felts exactly if both halves are plainly written. -/
theorem amount_exact_iff {low high : Json} {l h : Nat} (hlow : Felt.Held low)
    (hhigh : Felt.Held high) (hl : Felt.value low = .ok (l : Int))
    (hh : Felt.value high = .ok (h : Int)) (hlRange : l < 2 ^ 128) (hhRange : h < 2 ^ 128) :
    (Felt.amount low high = .ok (toString (l + 2 ^ 128 * h)) ↔
      Felt.Plain l low ∧ Felt.Plain h high) ∧
    ∀ (made : Payload.AssertionMade) (header : Block.Header) (item : Block.Item)
        (context : Context) (columns : Columns),
      assertionColumns made header item context = .ok columns →
      (made.domainIdLow = low → made.domainIdHigh = high →
        (columns.lookup "domain_id" = some (.text (toString (l + 2 ^ 128 * h))) ↔
          Felt.Plain l low ∧ Felt.Plain h high)) ∧
      (made.bondLow = low → made.bondHigh = high →
        (columns.lookup "bond" = some (.text (toString (l + 2 ^ 128 * h))) ↔
          Felt.Plain l low ∧ Felt.Plain h high)) := by
  have hamount := Felt.amount_iff hlow hhigh hl hh hlRange hhRange
  refine ⟨hamount, ?_⟩
  intro made header item context columns hcolumns
  have hholds := holdsAssertion_of_assertionColumns hcolumns
  obtain ⟨domainId, hdomainId, hdomainColumn⟩ := hholds.domainId
  obtain ⟨bond, hbond, hbondColumn⟩ := hholds.bond
  refine ⟨?_, ?_⟩
  · rintro rfl rfl
    rw [← hamount, hdomainId, hdomainColumn]
    simp
  · rintro rfl rfl
    rw [← hamount, hbond, hbondColumn]
    simp

/-- An assertion with a bond of some halves. -/
private def bondOf (low high : Json) : Payload.AssertionMade :=
  { Payload.AssertionMade.plain with bondLow := low, bondHigh := high }

/-- The columns of such an assertion, at a block and for an item that matter to neither amount. -/
private def columnsOf (low high : Json) : Outcome Columns :=
  assertionColumns (bondOf low high) ⟨7, .null, .null⟩ (bareItem assertionMadeSelector [])
    ⟨"net", ⟨none, none⟩⟩

private theorem columnsOf_of_amount {low high : Json} {bond : String}
    (h : Felt.amount low high = .ok bond) :
    ∃ columns, columnsOf low high = .ok columns ∧ columns.lookup "bond" = some (.text bond) := by
  obtain ⟨columns, hcolumns, _⟩ := exists_assertionColumns (bondOf low high) claimWords_plain
    concatenated_bare (dataId_bareItem _ _) domainId_plain expiration_plain h identifier_plain
    ⟨7, .null, .null⟩ ⟨"net", ⟨none, none⟩⟩
  obtain ⟨other, hother, hbond⟩ := (holdsAssertion_of_assertionColumns hcolumns).bond
  obtain rfl : other = bond := Except.ok.inj (hother.symm.trans h)
  exact ⟨columns, hcolumns, hbond⟩

/-- A bond whose lower half is sixteen, marked, and whose upper half is three, in decimal, is
exact. -/
theorem amount_exact_three_above :
    Felt.amount (.text "0X10") (.text "3") = .ok (toString (16 + 2 ^ 128 * 3)) ∧
    ∃ columns, columnsOf (.text "0X10") (.text "3") = .ok columns ∧
      columns.lookup "bond" = some (.text (toString (16 + 2 ^ 128 * 3))) := by
  have hplain : Felt.Plain 16 (.text "0X10") ∧ Felt.Plain 3 (.text "3") := by
    refine ⟨.marked (Text.allHex_iff_all.mpr rfl) ⟨'X', ['1', '0'], .inr rfl, rfl⟩, ?_⟩
    exact .small (Text.allHex_iff_all.mpr rfl) (by decide)
  obtain ⟨hamount, hcolumns⟩ := amount_exact_iff (l := 16) (h := 3) (.text "0X10") (.text "3") rfl
    rfl (by decide) (by decide)
  have hexact := hamount.mpr hplain
  obtain ⟨columns, hmade, _⟩ := columnsOf_of_amount hexact
  exact ⟨hexact, columns, hmade, ((hcolumns _ _ _ _ _ hmade).2 rfl rfl).mpr hplain⟩

/-- A bond of sixteen in decimal comes out as twenty-two, and one with a blank in front is
refused. -/
theorem amount_not_exact :
    Felt.value (.text "16") = .ok ((16 : Nat) : Int) ∧
    Felt.value (.text "0") = .ok ((0 : Nat) : Int) ∧
    Felt.amount (.text "16") (.text "0") = .ok "22" ∧
    (∃ columns, columnsOf (.text "16") (.text "0") = .ok columns ∧
      columns.lookup "bond" = some (.text "22")) ∧
    Felt.value (.text " 0x10") = .ok ((16 : Nat) : Int) ∧
    ∃ fault, Felt.amount (.text " 0x10") (.text "0") = .error fault := by
  have hamount : Felt.amount (.text "16") (.text "0") = .ok "22" := rfl
  exact ⟨rfl, rfl, hamount, columnsOf_of_amount hamount, rfl, _, rfl⟩

end Record

end OracleIndexer
