import OracleIndexer.Payload.Assertion
import OracleIndexer.Proofs.Conversion
set_option autoImplicit false

/-!
# The felts of a new assertion

An assertion in its felts: a count of the full claim words, the words, the length of the word left
over, and the fields behind.  An assertion is read from these felts if the count, a numeral of base
sixteen, tells the number of its words.
-/

namespace OracleIndexer.Payload.AssertionMade

/-- The felts of a new assertion, with a count of its full words, a length of the word left over,
and felts behind. -/
def felts (made : AssertionMade) (count length : Json) (behind : List Json) : List Json :=
  made.assertionId :: made.domainIdLow :: made.domainIdHigh :: count ::
    (made.claimWords ++ length :: made.asserter :: made.callbackRecipient
      :: made.escalationManager :: made.caller :: made.expirationTimestamp :: made.currency
      :: made.bondLow :: made.bondHigh :: made.identifier :: behind)

/-- An assertion without a claim, its felts told apart. -/
def plain : AssertionMade where
  assertionId := .text "0xa55"
  domainIdLow := .text "0x5"
  domainIdHigh := .text "0x0"
  claimWords := [.text "0x0"]
  asserter := .text "0xa1"
  callbackRecipient := .text "0xc1"
  escalationManager := .text "0xe1"
  caller := .text "0xca"
  expirationTimestamp := .text "0x0"
  currency := .text "0xcc"
  bondLow := .text "0x10"
  bondHigh := .text "0x0"
  identifier := .text "0xabc"

/-- The number of a count, which is read in base sixteen. -/
def counted? (count : Json) : Option Int :=
  count.asText.toOption.bind fun text => Text.Numeral.read 16 text.toList

@[simp] theorem counted?_text (s : String) : counted? (.text s) = Text.Numeral.read 16 s.toList :=
  rfl

theorem counted?_of_asText {count : Json} {text : String} (h : count.asText = .ok text) :
    counted? count = Text.Numeral.read 16 text.toList := by
  rw [counted?, h]
  rfl

theorem claimLength_of_none {count : Json} (h : counted? count = none) :
    claimLength count = .error (.claimLengthNotHex count) := by
  cases htext : count.asText with
  | error fault => simp only [claimLength, htext]
  | ok text =>
    rw [counted?_of_asText htext] at h
    simp only [claimLength, htext, h]

theorem claimLength_of_some {count : Json} {v : Int} (h : counted? count = some v) :
    claimLength count = if v < 0 then .error (.claimLengthNegative count) else .ok v.toNat := by
  cases htext : count.asText with
  | error fault =>
    rw [counted?, htext] at h
    contradiction
  | ok text =>
    rw [counted?_of_asText htext] at h
    cases v with
    | ofNat n =>
      have hnonneg : ¬ Int.ofNat n < 0 := Int.not_lt.mpr (Int.natCast_nonneg n)
      rw [if_neg hnonneg]
      simp only [claimLength, htext, h]
      rfl
    | negSucc n =>
      rw [if_pos (Int.negSucc_lt_zero n)]
      simp only [claimLength, htext, h]

/-- A count that has a number can be written. -/
theorem isWritable_of_counted {count : Json} {v : Int} (h : counted? count = some v) :
    count.isWritable = true := by
  cases htext : count.asText with
  | error fault =>
    rw [counted?, htext] at h
    contradiction
  | ok text => exact (Json.asText_eq_ok_iff.mp htext).1

theorem counted?_zero : counted? (.text "0x0") = some ((0 : Nat) : Int) := rfl

/-- The fields of an assertion are found in its felts, whatever they tell of the length of the last
word. -/
theorem fields_felts {made : AssertionMade} {count : Json} {n : Nat}
    (hcount : counted? count = some (n : Int)) (hwords : made.claimWords.length = n + 1)
    (length : Json) (behind : List Json) :
    fields (made.felts count length behind) = .ok made := by
  have hlength : claimLength count = .ok n := by
    rw [claimLength_of_some hcount, if_neg (by omega), Int.toNat_natCast]
  have htake : ∀ tail : List Json, (made.claimWords ++ tail).take (n + 1) = made.claimWords :=
    fun tail => List.take_left' hwords
  have hdrop : ∀ tail : List Json, (made.claimWords ++ length :: tail).drop (n + 2) = tail := by
    intro tail
    have hfront : (made.claimWords ++ [length]).length = n + 2 := by simp [hwords]
    rw [← List.singleton_append, ← List.append_assoc, List.drop_left' hfront]
  simp only [fields, felts, hlength, Outcome.ok_bind, hdrop, htake]

theorem ofData_felts {made : AssertionMade} {count : Json} {n : Nat}
    (hcount : counted? count = some (n : Int)) (hwords : made.claimWords.length = n + 1)
    (length : Json) (behind : List Json) :
    ofData (made.felts count length behind) = .ok made := by
  rw [ofData, fields_felts hcount hwords, Outcome.mapError_ok]

end OracleIndexer.Payload.AssertionMade
