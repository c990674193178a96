import OracleIndexer.Proofs.Felt.Rereading
import OracleIndexer.Proofs.Payload.AssertionFelts
set_option autoImplicit false

/-!
# The layout of a new assertion

The claim of a new assertion has one word more than its count tells, and every field behind stands
further back for it.  The felts of an assertion are read as that assertion, and what is read has
those felts.  The count is read in base sixteen, so the fields stand where the count as a felt puts
them only if both readers agree on it.  Felts that are refused are told what they lack, unless
the telling holds a number that cannot be written.
-/

namespace OracleIndexer.Payload.AssertionMade

open Text (isSeparator)
open Text.HexWord (Marked value?)
open Text.Numeral (digitLimit)

/-! ## Places -/

/-- The fields behind the claim. -/
def tail (made : AssertionMade) : List Json :=
  [made.asserter, made.callbackRecipient, made.escalationManager, made.caller,
    made.expirationTimestamp, made.currency, made.bondLow, made.bondHigh, made.identifier]

section

variable {made : AssertionMade} {n : Nat}

theorem drop_felts (made : AssertionMade) (count length : Json) (behind : List Json) :
    (made.felts count length behind).drop 4
      = made.claimWords ++ length :: (made.tail ++ behind) := rfl

theorem length_felts (hwords : made.claimWords.length = n + 1) (count length : Json)
    (behind : List Json) :
    (made.felts count length behind).length = size n + behind.length := by
  simp only [felts, size, List.length_cons, List.length_append, hwords]
  omega

theorem getElem?_felts (hwords : made.claimWords.length = n + 1) (count length : Json)
    (behind : List Json) : (made.felts count length behind)[5 + n]? = some length := by
  have hplace : 5 + n = 4 + (n + 1) := by omega
  rw [hplace, ← List.getElem?_drop, drop_felts, List.getElem?_append_right (by omega), hwords,
    Nat.sub_self, List.getElem?_cons_zero]

theorem take_felts (hwords : made.claimWords.length = n + 1) (count length : Json)
    (behind : List Json) :
    (made.felts count length behind).take (size n) = made.felts count length [] := by
  have happend : made.felts count length behind = made.felts count length [] ++ behind := by
    simp [felts]
  have hlength := length_felts hwords count length []
  rw [happend, List.take_left' (by simpa using hlength)]

theorem claimWords_felts (hwords : made.claimWords.length = n + 1) (count length : Json)
    (behind : List Json) :
    ((made.felts count length behind).drop 4).take (n + 1) = made.claimWords := by
  rw [drop_felts, List.take_left' hwords]

theorem tail_felts (hwords : made.claimWords.length = n + 1) (count length : Json)
    (behind : List Json) : ((made.felts count length behind).drop (6 + n)).take 9 = made.tail := by
  have hplace : 6 + n = 4 + ((n + 1) + 1) := by omega
  rw [hplace, ← List.drop_drop, drop_felts, ← List.drop_drop, List.drop_left' hwords,
    List.drop_succ_cons, List.drop_zero]
  exact List.take_left' rfl

end

/-! ## Reading -/

/-- What becomes of felts that are to be a new assertion. -/
inductive Reads : List Json → Except LayoutFault AssertionMade → Prop
  /-- there is no count -/
  | noCount {data : List Json} (short : data.length < 4) :
    Reads data (.error (.shortOpen "AssertionMade" 4 data.length))
  | notHex {data : List Json} {count : Json} (found : data[3]? = some count)
      (unread : counted? count = none) : Reads data (.error (.claimLengthNotHex count))
  | negative {data : List Json} {count : Json} {n : Int} (found : data[3]? = some count)
      (counted : counted? count = some n) (negative : n < 0) :
    Reads data (.error (.claimLengthNegative count))
  | short {data : List Json} {count : Json} {n : Nat} (found : data[3]? = some count)
      (counted : counted? count = some (n : Int)) (short : data.length < size n) :
    Reads data (.error (.shortClaim n (size n) data.length))
  | felts {made : AssertionMade} {count length : Json} {behind : List Json} {n : Nat}
      (counted : counted? count = some (n : Int)) (words : made.claimWords.length = n + 1) :
    Reads (made.felts count length behind) (.ok made)

theorem exists_of_getElem?_three {data : List Json} {count : Json} (h : data[3]? = some count) :
    ∃ a b c rest, data = a :: b :: c :: count :: rest := by
  match data, h with
  | a :: b :: c :: _ :: rest, rfl => exact ⟨a, b, c, rest, rfl⟩

/-- Enough felts are those of an assertion. -/
theorem exists_felts {data : List Json} {count : Json} {n : Nat} (hfound : data[3]? = some count)
    (hlength : size n ≤ data.length) :
    ∃ (made : AssertionMade) (length : Json) (behind : List Json),
      made.claimWords.length = n + 1 ∧ data = made.felts count length behind := by
  obtain ⟨assertionId, domainIdLow, domainIdHigh, rest, rfl⟩ := exists_of_getElem?_three hfound
  simp only [size, List.length_cons] at hlength
  have hlt : n + 1 < rest.length := by omega
  have hrest : rest = rest.take (n + 1) ++ rest[n + 1] :: rest.drop (n + 2) := by
    rw [← List.drop_eq_getElem_cons hlt, List.take_append_drop]
  have htail : 9 ≤ (rest.drop (n + 2)).length := by
    rw [List.length_drop]
    omega
  match hdrop : rest.drop (n + 2), htail with
  | asserter :: callbackRecipient :: escalationManager :: caller :: expirationTimestamp
      :: currency :: bondLow :: bondHigh :: identifier :: behind, _ =>
    rw [hdrop] at hrest
    refine ⟨⟨assertionId, domainIdLow, domainIdHigh, rest.take (n + 1), asserter,
      callbackRecipient, escalationManager, caller, expirationTimestamp, currency, bondLow,
      bondHigh, identifier⟩, rest[n + 1], behind, List.length_take_of_le (by omega), ?_⟩
    exact congrArg (assertionId :: domainIdLow :: domainIdHigh :: count :: ·) hrest

/-- Every list of felts becomes something. -/
theorem exists_reads (data : List Json) : ∃ result, Reads data result := by
  rcases Nat.lt_or_ge data.length 4 with hshort | hlong
  · exact ⟨_, .noCount hshort⟩
  · have hfound : data[3]? = some data[3] := List.getElem?_eq_getElem hlong
    cases hread : counted? data[3] with
    | none => exact ⟨_, .notHex hfound hread⟩
    | some v =>
      cases v with
      | negSucc k => exact ⟨_, .negative hfound hread (Int.negSucc_lt_zero k)⟩
      | ofNat n =>
        rcases Nat.lt_or_ge data.length (size n) with hshort | hlong
        · exact ⟨_, .short hfound hread hshort⟩
        · obtain ⟨made, length, behind, hwords, hdata⟩ := exists_felts hfound hlong
          rw [hdata]
          exact ⟨_, .felts hread hwords⟩

theorem fields_of_reads {data : List Json} {result : Except LayoutFault AssertionMade}
    (h : Reads data result) : fields data = result := by
  cases h with
  | noCount short =>
    unfold fields
    split
    · simp only [List.length_cons] at short
      omega
    · rfl
  | notHex found unread =>
    obtain ⟨_, _, _, rest, rfl⟩ := exists_of_getElem?_three found
    simp only [fields, claimLength_of_none unread, Outcome.error_bind]
  | @negative _ _ n found counted negative =>
    obtain ⟨_, _, _, rest, rfl⟩ := exists_of_getElem?_three found
    simp only [fields, claimLength_of_some counted, if_pos negative, Outcome.error_bind]
  | @short _ _ n found counted short =>
    obtain ⟨_, _, _, rest, rfl⟩ := exists_of_getElem?_three found
    have hnonneg : ¬ (n : Int) < 0 := by omega
    simp only [fields, claimLength_of_some counted, if_neg hnonneg, Int.toNat_natCast,
      Outcome.ok_bind]
    split
    · rename_i hdrop
      have hlength := congrArg List.length hdrop
      simp only [size, List.length_drop, List.length_cons] at hlength short
      omega
    · rfl
  | felts counted words => exact fields_felts counted words _ _

/-- A list of felts has the fields of the assertion whose felts it is, and lacks what is missing
otherwise. -/
theorem fields_eq_iff {data : List Json} {result : Except LayoutFault AssertionMade} :
    fields data = result ↔ Reads data result := by
  constructor
  · rintro rfl
    obtain ⟨result, h⟩ := exists_reads data
    rwa [fields_of_reads h]
  · exact fields_of_reads

theorem ofData_eq_ok_iff {data : List Json} {made : AssertionMade} :
    ofData data = .ok made ↔ Reads data (.ok made) := by
  rw [ofData, Outcome.mapError_eq_ok_iff, fields_eq_iff]

theorem ofData_eq_error_iff {data : List Json} {fault : Fault} :
    ofData data = .error fault ↔
      ∃ lack, Reads data (.error lack) ∧ Fault.raised (.layout lack) = fault := by
  simp only [ofData, Outcome.mapError_eq_error_iff, fields_eq_iff]

/-- What is read as an assertion are its felts. -/
theorem exists_eq_felts {data : List Json} {made : AssertionMade} (h : ofData data = .ok made) :
    ∃ (count length : Json) (behind : List Json) (n : Nat), counted? count = some (n : Int) ∧
      made.claimWords.length = n + 1 ∧ data = made.felts count length behind := by
  cases ofData_eq_ok_iff.mp h with
  | felts counted words => exact ⟨_, _, _, _, counted, words, rfl⟩

/-- The fourth of them is the count. -/
theorem exists_eq_felts_of_count {data : List Json} {made : AssertionMade} {count : Json}
    (hfound : data[3]? = some count) (h : ofData data = .ok made) :
    ∃ (length : Json) (behind : List Json) (n : Nat), counted? count = some (n : Int) ∧
      made.claimWords.length = n + 1 ∧ data = made.felts count length behind := by
  obtain ⟨other, length, behind, n, hcounted, hwords, rfl⟩ := exists_eq_felts h
  obtain rfl : other = count := Option.some.inj hfound
  exact ⟨length, behind, n, hcounted, hwords, rfl⟩

/-- Felts are an assertion exactly if there are enough of them for their count. -/
theorem exists_ofData_iff {data : List Json} {count : Json} (hfound : data[3]? = some count) :
    (∃ made, ofData data = .ok made) ↔
      ∃ n : Nat, counted? count = some (n : Int) ∧ size n ≤ data.length := by
  constructor
  · rintro ⟨made, h⟩
    obtain ⟨length, behind, n, hcounted, hwords, rfl⟩ := exists_eq_felts_of_count hfound h
    refine ⟨n, hcounted, ?_⟩
    rw [length_felts hwords]
    omega
  · rintro ⟨n, hcounted, hlength⟩
    obtain ⟨made, length, behind, hwords, rfl⟩ := exists_felts hfound hlength
    exact ⟨made, ofData_felts hcounted hwords length behind⟩

/-! ## What is told of a refusal -/

/-- Felts of which it can be told what they lack: their count can be written, and so can the number
of felts that it calls for. -/
def Tellable (data : List Json) : Prop :=
  ∀ count, data[3]? = some count → count.isWritable = true ∧
    ∀ n : Nat, counted? count = some (n : Int) → size n < 10 ^ digitLimit

theorem tellable_iff {data : List Json} {count : Json} (h : data[3]? = some count) :
    Tellable data ↔ count.isWritable = true ∧
      ∀ n : Nat, counted? count = some (n : Int) → size n < 10 ^ digitLimit := by
  rw [Tellable, h]
  simp

/-- What felts lack is worded exactly if it can be told of them. -/
theorem isWritable_iff_of_reads {data : List Json} {lack : LayoutFault}
    (h : Reads data (.error lack)) : lack.isWritable = true ↔ Tellable data := by
  cases h with
  | noCount short =>
    have hnone : data[3]? = none := List.getElem?_eq_none (by omega)
    simp [Tellable, hnone, LayoutFault.isWritable]
  | notHex found unread =>
    rw [tellable_iff found]
    simp [unread, LayoutFault.isWritable]
  | @negative _ count n found counted negative =>
    have hnot : ∀ m : Nat, counted? count ≠ some (m : Int) := by
      intro m hm
      rw [counted, Option.some.injEq] at hm
      omega
    rw [tellable_iff found]
    simp [hnot, LayoutFault.isWritable]
  | @short _ count n found counted short =>
    rw [tellable_iff found]
    have hcount := isWritable_of_counted counted
    have hle : n ≤ size n := Nat.le_add_left n 15
    simp only [LayoutFault.isWritable, Bool.and_eq_true, Text.Numeral.isWritable_iff,
      Int.natAbs_natCast, hcount, counted, Option.some.injEq, Int.natCast_inj, forall_eq',
      true_and]
    omega

/-- Felts written with their count behind a marker are read as what they were made from. -/
theorem ofData_of_marked {made : AssertionMade} {marker : Char} {digits : List Char} {n : Nat}
    (hmarker : marker = 'x' ∨ marker = 'X') (hne : digits ≠ []) (hvalue : value? digits = some n)
    (hwords : made.claimWords.length = n + 1) (length : Json) (behind : List Json) :
    ofData (made.felts (.text (String.ofList ('0' :: marker :: digits))) length behind)
      = .ok made := by
  have hcounted := Felt.read_sixteen_of_hex hmarker hne hvalue
  rw [← String.toList_ofList (l := '0' :: marker :: digits), ← counted?_text] at hcounted
  exact ofData_felts hcounted hwords length behind

/-- What is read as an assertion is written back as the felts that it was read from. -/
theorem felts_of_ofData {data : List Json} {made : AssertionMade} (h : ofData data = .ok made) :
    ∃ (count length : Json) (n : Nat), data[3]? = some count ∧
      counted? count = some (n : Int) ∧ size n ≤ data.length ∧
      data[5 + n]? = some length ∧ made.claimWords.length = n + 1 ∧
      made.felts count length [] = data.take (size n) := by
  obtain ⟨count, length, behind, n, hcounted, hwords, rfl⟩ := exists_eq_felts h
  refine ⟨count, length, n, rfl, hcounted, ?_, getElem?_felts hwords count length behind, hwords,
    (take_felts hwords count length behind).symm⟩
  rw [length_felts hwords]
  omega

/-- Felts are refused exactly if their count counts nothing or calls for more of them. -/
theorem exists_error_iff {data : List Json} :
    (∃ fault, ofData data = .error fault) ↔
      ∀ (count : Json) (n : Nat), data[3]? = some count → counted? count = some (n : Int) →
        data.length < size n := by
  constructor
  · rintro ⟨fault, h⟩ count n hfound hcounted
    by_contra hlong
    obtain ⟨made, hmade⟩ := (exists_ofData_iff hfound).mpr ⟨n, hcounted, by omega⟩
    rw [h] at hmade
    contradiction
  · intro hshort
    cases h : ofData data with
    | error fault => exact ⟨fault, rfl⟩
    | ok made =>
      obtain ⟨count, _, n, hfound, hcounted, hlength, _⟩ := felts_of_ofData h
      have hless := hshort count n hfound hcounted
      omega

/-- A refusal tells what is lacking exactly if that can be told. -/
theorem told_of_ofData {data : List Json} {fault : Fault} (h : ofData data = .error fault) :
    (Tellable data → ∃ lack, Reads data (.error lack) ∧ fault = .layout lack) ∧
      (¬ Tellable data → fault = .value .unwritable) := by
  obtain ⟨lack, hlack, rfl⟩ := ofData_eq_error_iff.mp h
  rw [← isWritable_iff_of_reads hlack]
  constructor
  · intro hworded
    exact ⟨lack, hlack, Fault.raised_of_isWritable hworded⟩
  · intro hworded
    exact Fault.raised_of_not_isWritable (Bool.not_eq_true _ ▸ hworded)

/-- The layout is exact.  The felts of an assertion, its count in hexadecimal digits behind a
marker, are read as the assertion, whatever length the last word is told to have and whatever
stands behind.  What is read as an assertion has a count of base sixteen and as many felts as it
calls for, which are those of the assertion.  All other lists are refused, and told what they lack
exactly if the numbers in the telling can be written. -/
theorem layout_exact (data : List Json) :
    (∀ (made : AssertionMade) (marker : Char) (digits : List Char) (n : Nat) (length : Json)
        (behind : List Json), marker = 'x' ∨ marker = 'X' → digits ≠ [] →
      value? digits = some n → made.claimWords.length = n + 1 →
      data = made.felts (.text (String.ofList ('0' :: marker :: digits))) length behind →
      ofData data = .ok made) ∧
    (∀ made : AssertionMade, ofData data = .ok made →
      ∃ (count length : Json) (n : Nat), data[3]? = some count ∧
        counted? count = some (n : Int) ∧ size n ≤ data.length ∧
        data[5 + n]? = some length ∧ made.claimWords.length = n + 1 ∧
        made.felts count length [] = data.take (size n)) ∧
    ((∃ fault, ofData data = .error fault) ↔
      ∀ (count : Json) (n : Nat), data[3]? = some count → counted? count = some (n : Int) →
        data.length < size n) ∧
    ∀ fault : Fault, ofData data = .error fault →
      (Tellable data → ∃ lack, Reads data (.error lack) ∧ fault = .layout lack) ∧
        (¬ Tellable data → fault = .value .unwritable) := by
  refine ⟨?_, fun made => felts_of_ofData, exists_error_iff, fun fault => told_of_ofData⟩
  rintro made marker digits n length behind hmarker hne hvalue hwords rfl
  exact ofData_of_marked hmarker hne hvalue hwords length behind

/-- An assertion of two claim words. -/
private def twoWords : AssertionMade :=
  { plain with claimWords := [.text "0xaa", .text "0xbb"] }

/-- With a count of `0X01` and a felt behind, the two words are read, and written back; with a count
of `0x2` a felt is missing, and told to be. -/
theorem layout_exact_two_words :
    ofData (twoWords.felts (.text "0X01") (.text "0x1") [.text "0xff"]) = .ok twoWords ∧
    (∃ (count length : Json) (n : Nat),
      (twoWords.felts (.text "0X01") (.text "0x1") [.text "0xff"])[3]? = some count ∧
      counted? count = some (n : Int) ∧
      twoWords.felts count length []
        = (twoWords.felts (.text "0X01") (.text "0x1") [.text "0xff"]).take (size n)) ∧
    ∃ lack, ofData (twoWords.felts (.text "0x2") (.text "0x1") []) = .error (.layout lack) := by
  obtain ⟨hread, hwritten, _, _⟩ :=
    layout_exact (twoWords.felts (.text "0X01") (.text "0x1") [.text "0xff"])
  obtain ⟨_, _, hrefused, htold⟩ :=
    layout_exact (twoWords.felts (.text "0x2") (.text "0x1") [])
  have hmade := hread twoWords 'X' ['0', '1'] 1 (.text "0x1") [.text "0xff"] (.inr rfl)
    (by decide) (by decide) rfl rfl
  obtain ⟨count, length, n, hfound, hcounted, _, _, _, hfelts⟩ := hwritten _ hmade
  have htwo : counted? (.text "0x2") = some ((2 : Nat) : Int) := rfl
  obtain ⟨fault, hfault⟩ := hrefused.mpr <| by
    intro count n hfound hcounted
    obtain rfl : .text "0x2" = count := Option.some.inj hfound
    obtain rfl : 2 = n := Int.natCast_inj.mp (Option.some.inj (htwo.symm.trans hcounted))
    decide
  have htellable : Tellable (twoWords.felts (.text "0x2") (.text "0x1") []) := by
    refine (tellable_iff rfl).mpr ⟨rfl, ?_⟩
    intro n hcounted
    obtain rfl : 2 = n := Int.natCast_inj.mp (Option.some.inj (htwo.symm.trans hcounted))
    exact Nat.lt_of_lt_of_le (by decide : size 2 < 10 ^ 2)
      (Nat.pow_le_pow_right (by decide) (by decide))
  obtain ⟨lack, _, rfl⟩ := (htold fault hfault).1 htellable
  exact ⟨hmade, ⟨count, length, n, hfound, hcounted, hfelts⟩, lack, hfault⟩

/-- What is missing for a number of felts that cannot be written is not told. -/
theorem ofData_of_long {data : List Json} {count : Json} {n : Nat} (hfound : data[3]? = some count)
    (hcounted : counted? count = some (n : Int)) (hshort : data.length < size n)
    (hlong : 10 ^ digitLimit ≤ size n) : ofData data = .error (.value .unwritable) := by
  have hreads := Reads.short hfound hcounted hshort
  refine ofData_eq_error_iff.mpr ⟨_, hreads, Fault.raised_of_not_isWritable ?_⟩
  rw [← Bool.not_eq_true]
  intro hworded
  have htellable := (isWritable_iff_of_reads hreads).mp hworded
  have hlt := (htellable count hfound).2 n hcounted
  omega

theorem counted?_marked_hex (n : Nat) :
    counted? (.text (String.ofList ('0' :: 'x' :: Text.Numeral.hex n))) = some (n : Int) := by
  rw [counted?_text, String.toList_ofList]
  exact Felt.read_sixteen_of_hex (.inl rfl) Nat.toDigits_ne_nil (Text.HexWord.value?_toDigits n)

theorem ofData_of_power {k : Nat} (h : 14340 ≤ k) :
    ofData (plain.felts (.text (String.ofList ('0' :: 'x' :: Text.Numeral.hex (2 ^ k))))
      (.text "0x0") []) = .error (.value .unwritable) := by
  have hlong : 10 ^ digitLimit ≤ size (2 ^ k) :=
    (Text.Numeral.pow_digitLimit_le h).trans (Nat.le_add_left _ _)
  exact ofData_of_long rfl (counted?_marked_hex _)
    (Nat.lt_add_of_pos_right (Nat.two_pow_pos k)) hlong

/-- A count of 3601 digits calls for more felts than there are, but is refused as a number that
cannot be written. -/
theorem not_told_of_long_count :
    let count := Json.text (String.ofList ('0' :: 'x' :: Text.Numeral.hex (2 ^ 14400)))
    ofData (plain.felts count (.text "0x0") []) = .error (.value .unwritable) ∧
      ¬ ∃ lack, ofData (plain.felts count (.text "0x0") []) = .error (.layout lack) := by
  intro count
  have hrefused := ofData_of_power (k := 14400) (by decide)
  refine ⟨hrefused, ?_⟩
  rintro ⟨lack, hlack⟩
  rw [hrefused] at hlack
  cases hlack

/-! ## Counts of other spellings -/

/-- The felts are laid out as a number tells: they are an assertion exactly if there are enough of
them for it, and then the words and the fields behind stand where it puts them. -/
structure LaidOut (data : List Json) (n : Nat) : Prop where
  accepted : (∃ made, ofData data = .ok made) ↔ size n ≤ data.length
  count : ∀ made, ofData data = .ok made → made.claimWords.length = n + 1
  words : ∀ made, ofData data = .ok made → made.claimWords = (data.drop 4).take (n + 1)
  tail : ∀ made, ofData data = .ok made → made.tail = (data.drop (6 + n)).take 9

section

variable {data : List Json} {count : Json} {n : Nat}

theorem laidOut_of_read (hfound : data[3]? = some count)
    (hcounted : counted? count = some (n : Int)) : LaidOut data n := by
  have hfelts : ∀ made, ofData data = .ok made → ∃ (length : Json) (behind : List Json),
      made.claimWords.length = n + 1 ∧ data = made.felts count length behind := by
    intro made h
    obtain ⟨length, behind, m, hm, hwords, hdata⟩ := exists_eq_felts_of_count hfound h
    obtain rfl : m = n := by simpa [hm] using hcounted
    exact ⟨length, behind, hwords, hdata⟩
  refine ⟨?_, ?_, ?_, ?_⟩
  · rw [exists_ofData_iff hfound]
    simp [hcounted]
  · intro made h
    obtain ⟨length, behind, hwords, rfl⟩ := hfelts made h
    exact hwords
  · intro made h
    obtain ⟨length, behind, hwords, rfl⟩ := hfelts made h
    exact (claimWords_felts hwords count length behind).symm
  · intro made h
    obtain ⟨length, behind, hwords, rfl⟩ := hfelts made h
    exact (tail_felts hwords count length behind).symm

/-- Too few felts for a number are too few for the count if it is no smaller in base sixteen. -/
theorem laidOut_of_short (hfound : data[3]? = some count)
    (hle : ∀ v : Nat, counted? count = some (v : Int) → n ≤ v)
    (hshort : data.length < size n) : LaidOut data n := by
  have hrefused : ¬ ∃ made, ofData data = .ok made := by
    rw [exists_ofData_iff hfound]
    rintro ⟨v, hcounted, hlength⟩
    have hmore := hle v hcounted
    rw [size] at hshort hlength
    omega
  refine ⟨?_, ?_, ?_, ?_⟩
  · exact iff_of_false hrefused (by omega)
  all_goals exact fun made h => absurd ⟨made, h⟩ hrefused

/-- Enough felts that are laid out as a number tells have it as their count. -/
theorem read_of_laidOut (hfound : data[3]? = some count) (h : LaidOut data n)
    (hlength : size n ≤ data.length) : counted? count = some (n : Int) := by
  obtain ⟨made, hmade⟩ := h.accepted.mpr hlength
  obtain ⟨_, _, v, hcounted, hwords, _⟩ := exists_eq_felts_of_count hfound hmade
  have hcount := h.count made hmade
  obtain rfl : v = n := by omega
  exact hcounted

/-- A count reads in base sixteen as it does as a felt exactly if it has no separator around it and
is marked or below ten. -/
theorem counted?_iff (hheld : Felt.Held count) (hvalue : Felt.value count = .ok (n : Int)) :
    counted? count = some (n : Int) ↔
      (∀ c ∈ count.shownText.toList, isSeparator c = false) ∧
        (Marked (Text.trim count.shownText.toList) ∨ n < 10) := by
  cases htext : count.asText with
  | ok text =>
    obtain ⟨_, rfl⟩ := Json.asText_eq_ok_iff.mp htext
    rw [counted?_of_asText htext]
    exact Felt.read_sixteen_iff (Felt.ofText_of_asText hheld htext hvalue)
  | error fault =>
    -- only a number that cannot be written has no text, and it is neither marked nor below ten
    cases hheld with
    | text s => cases htext
    | whole k =>
      obtain rfl : k = n := Except.ok.inj hvalue
      have hlong : ¬ Text.Numeral.isWritable n = true := fun h =>
        nomatch htext.symm.trans (Json.asText_eq_ok_iff.mpr ⟨h, rfl⟩)
      rw [Text.Numeral.isWritable_iff, Int.natAbs_natCast, Nat.not_lt] at hlong
      have hten : 10 ≤ n := (Nat.le_self_pow (by decide) 10).trans hlong
      rw [counted?, htext]
      refine iff_of_false (by simp [Except.toOption]) ?_
      rintro ⟨_, hmarked | hsmall⟩
      · exact Felt.not_marked_shownText n hmarked
      · omega

theorem le_of_counted {v : Nat} (hheld : Felt.Held count)
    (hvalue : Felt.value count = .ok (n : Int)) (h : counted? count = some (v : Int)) : n ≤ v := by
  obtain ⟨text, htext⟩ : ∃ text, count.asText = .ok text :=
    ⟨_, Json.asText_eq_ok_iff.mpr ⟨isWritable_of_counted h, rfl⟩⟩
  rw [counted?_of_asText htext] at h
  simpa using Felt.natAbs_le_of_read_sixteen (Felt.ofText_of_asText hheld htext hvalue) h

/-- The felts are laid out as the count, read as a felt, tells, exactly if they are too few for it,
or the count has no separator around it and is marked or below ten. -/
theorem laidOut_iff (hfound : data[3]? = some count) (hheld : Felt.Held count)
    (hvalue : Felt.value count = .ok (n : Int)) :
    LaidOut data n ↔ data.length < size n ∨
      ((∀ c ∈ count.shownText.toList, isSeparator c = false) ∧
        (Marked (Text.trim count.shownText.toList) ∨ n < 10)) := by
  rw [← counted?_iff hheld hvalue]
  constructor
  · intro h
    rcases Nat.lt_or_ge data.length (size n) with hshort | hlong
    · exact .inl hshort
    · exact .inr (read_of_laidOut hfound h hlong)
  · rintro (hshort | hcounted)
    · exact laidOut_of_short hfound (fun v hv => le_of_counted hheld hvalue hv) hshort
    · exact laidOut_of_read hfound hcounted

end

/-- A decimal count below ten lays the felts out. -/
theorem laidOut_one :
    (twoWords.felts (.text " 1") (.text "0x1") [])[3]? = some (.text " 1") ∧
    Felt.value (.text " 1") = .ok ((1 : Nat) : Int) ∧
    LaidOut (twoWords.felts (.text " 1") (.text "0x1") []) 1 := by
  have hvalue : Felt.value (.text " 1") = .ok ((1 : Nat) : Int) := rfl
  have hall : " 1".toList.all (fun c => !isSeparator c) = true := rfl
  refine ⟨rfl, hvalue, (laidOut_iff rfl (.text " 1") hvalue).mpr (.inr ⟨?_, .inr (by decide)⟩)⟩
  intro c hc
  simpa using List.all_eq_true.mp hall c hc

/-- An assertion of eleven claim words. -/
private def elevenWords : AssertionMade :=
  { twoWords with claimWords := List.replicate 11 (.text "0xaa") }

/-- A decimal count of ten does not: for the sixteen words that it stands for in base sixteen the
felts are too few, and six more make fields of what stood behind the words. -/
theorem not_laidOut_ten :
    Felt.value (.text "10") = .ok ((10 : Nat) : Int) ∧
    (elevenWords.felts (.text "10") (.text "0x1") []).length = size 10 ∧
    (∃ fault, ofData (elevenWords.felts (.text "10") (.text "0x1") []) = .error fault) ∧
    ¬ LaidOut (elevenWords.felts (.text "10") (.text "0x1") []) 10 ∧
    ∃ made, ofData (elevenWords.felts (.text "10") (.text "0x1") (List.replicate 6 .null))
        = .ok made ∧
      made.claimWords.length = 17 ∧ made.asserter = elevenWords.bondLow := by
  refine ⟨rfl, rfl, ⟨_, rfl⟩, ?_, _, rfl, rfl, rfl⟩
  intro hlaid
  have hfound : (elevenWords.felts (.text "10") (.text "0x1") [])[3]? = some (.text "10") := rfl
  have hcounted := read_of_laidOut hfound hlaid (Nat.le_refl _)
  have hsixteen : counted? (.text "10") = some 16 := rfl
  rw [hcounted] at hsixteen
  contradiction

end OracleIndexer.Payload.AssertionMade
