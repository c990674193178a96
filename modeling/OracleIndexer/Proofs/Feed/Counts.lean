import OracleIndexer.Proofs.Feed.Walk
import OracleIndexer.Proofs.Felt.Writing
import OracleIndexer.Proofs.Text.Bases
set_option autoImplicit false

/-!
# Record counts

A count is four digits of its radix.  Digits that are decimal denote no less in the larger radix, so
a message with such a count is read as far at least in the hexadecimal radix as in the decimal one.

The decimal radix accepts nothing but counts.  The hexadecimal one also accepts the other numerals
of four characters, whose value may be negative and then counts no records.
-/

namespace OracleIndexer.Feed

open Text (AllHex)
open Text.HexWord (value? valueFrom valueFrom_cons)
open Text.Numeral (IsNumeral)

/-- The digits of a radix, all of them ASCII. -/
def CountRadix.isDigit : CountRadix → Char → Bool
  | .decimal => Text.isDecimalDigit
  | .hex => Text.isHexDigit

/-- What is reported of characters that do not read as a count. -/
def CountRadix.refusal (radix : CountRadix) (text : List Char) : CodecFault :=
  match radix with
  | .decimal => .countNotDecimal (String.ofList text)
  | .hex => .countNotHex (String.ofList text)

/-- Four digits of a radix, and the number that they denote. -/
structure IsCount (radix : CountRadix) (text : List Char) (n : Nat) : Prop where
  width : text.length = Batch.countWidth
  digits : ∀ c ∈ text, radix.isDigit c = true
  value : valueFrom radix.base 0 text = some n

/-- A numeral of base sixteen that is not made of digits alone: it has a sign, a mark, underscores,
blanks, or digits of another script. -/
structure IsLoose (text : List Char) (n : Int) : Prop where
  numeral : IsNumeral 16 text n
  loose : ¬ AllHex text

/-! ## Reading counts -/

theorem CountRadix.isHexDigit_of_isDigit {radix : CountRadix} {c : Char}
    (h : radix.isDigit c = true) : Text.isHexDigit c = true := by
  cases radix with
  | decimal => exact Text.isHexDigit_of_isDecimalDigit h
  | hex => exact h

theorem IsCount.allHex {radix : CountRadix} {text : List Char} {n : Nat}
    (h : IsCount radix text n) : AllHex text :=
  fun c hc => CountRadix.isHexDigit_of_isDigit (h.digits c hc)

/-- Four digits denote a number. -/
theorem exists_isCount {radix : CountRadix} {text : List Char}
    (hwidth : text.length = Batch.countWidth) (hdigits : ∀ c ∈ text, radix.isDigit c = true) :
    ∃ n, IsCount radix text n := by
  cases radix with
  | decimal => exact ⟨_, hwidth, hdigits, Wire.valueFrom_ten_eq_foldl hdigits⟩
  | hex =>
    obtain ⟨n, hvalue, _⟩ := Text.HexWord.value?_eq_some_of_allHex hdigits
    exact ⟨n, hwidth, hdigits, hvalue⟩

theorem IsCount.ne_nil {radix : CountRadix} {text : List Char} {n : Nat}
    (h : IsCount radix text n) : text ≠ [] := by
  rintro rfl
  exact absurd h.width (by decide)

theorem read_of_isCount {radix : CountRadix} {text : List Char} {n : Nat}
    (h : IsCount radix text n) : radix.read text = .ok n :=
  Wire.read_of_denotes h.ne_nil h.allHex h.value

theorem read_of_isLoose {text : List Char} {n : Int} (h : IsLoose text n) :
    CountRadix.hex.read text = .ok n := by
  rw [CountRadix.read, Text.Numeral.read_eq_some_iff.mpr h.numeral]

/-- Four characters are a count, another numeral where these are read, or refused. -/
theorem isCount_or_isLoose_or_refused (radix : CountRadix) {text : List Char}
    (hwidth : text.length = Batch.countWidth) :
    (∃ n, IsCount radix text n) ∨ (radix = .hex ∧ ∃ n, IsLoose text n) ∨
      radix.read text = .error (radix.refusal text) := by
  by_cases hdigits : ∀ c ∈ text, radix.isDigit c = true
  · exact .inl (exists_isCount hwidth hdigits)
  · right
    cases radix with
    | decimal =>
      push Not at hdigits
      obtain ⟨c, hc, hbad⟩ := hdigits
      exact .inr (Wire.read_of_not_decimal ⟨c, hc, Bool.eq_false_iff.mpr hbad⟩)
    | hex =>
      cases hread : Text.Numeral.read 16 text with
      | some n => exact .inl ⟨rfl, n, Text.Numeral.read_eq_some_iff.mp hread, hdigits⟩
      | none =>
        right
        rw [CountRadix.read, hread]
        rfl

/-! ## Values in two radices -/

/-- Digits of a base denote no less in a larger one. -/
theorem valueFrom_le {small large s t m n : Nat} {text : List Char} (hbase : small ≤ large)
    (hstart : s ≤ t) (hm : valueFrom small s text = some m)
    (hn : valueFrom large t text = some n) : m ≤ n := by
  induction text generalizing s t with
  | nil =>
    obtain rfl := Option.some.inj hm
    obtain rfl := Option.some.inj hn
    exact hstart
  | cons c rest ih =>
    obtain ⟨d, hd, hm⟩ := Text.Numeral.exists_digit_of_valueFrom hm
    rw [valueFrom_cons, Text.digitValue?_of_le hbase hd, Option.bind_some] at hn
    have hmore : s * small + d ≤ t * large + d :=
      Nat.add_le_add_right (Nat.mul_le_mul hstart hbase) d
    exact ih hmore hm hn

/-- Behind zeros a digit is worth itself in any base that has it. -/
theorem value_of_zeros {text : List Char} {n : Nat} (hwidth : text.length = Batch.countWidth)
    (hzeros : text.take 3 = ['0', '0', '0']) (h : valueFrom 10 0 text = some n) :
    valueFrom 16 0 text = some n := by
  obtain ⟨c, hc⟩ : ∃ c, text.drop 3 = [c] := by
    apply List.length_eq_one_iff.mp
    rw [List.length_drop, hwidth]
    rfl
  have htext : text = ['0', '0', '0'] ++ [c] := by rw [← hzeros, ← hc, List.take_append_drop]
  rw [htext, Text.HexWord.valueFrom_append] at h ⊢
  obtain ⟨d, hd, hvalue⟩ := Text.Numeral.exists_digit_of_valueFrom h
  show valueFrom 16 0 [c] = some n
  rw [valueFrom_cons, Text.digitValue?_of_le (by decide) hd]
  exact hvalue

namespace Batch

/-! ## Fewer and more records -/

/-- What stops the decoder at some record stops it as well when more records are counted. -/
theorem records_error_of_le {table : Option SizeTable} {m n done : Nat} {rest : List Char}
    {fault : Fault} (hle : m ≤ n) (h : records table m done rest = .error fault) :
    records table n done rest = .error fault := by
  induction m generalizing n done rest with
  | zero => contradiction
  | succ m ih =>
    obtain ⟨n, rfl⟩ := Nat.exists_eq_succ_of_ne_zero (Nat.ne_of_gt (Nat.zero_lt_of_lt hle))
    rw [records] at h ⊢
    rcases Outcome.bind_eq_error_iff.mp h with h | ⟨⟨text, size⟩, hrecord, h⟩
    · rw [h]
      rfl
    · rcases Outcome.bind_eq_error_iff.mp h with h | ⟨_, _, h⟩
      · rw [hrecord, Outcome.ok_bind]
        dsimp only
        rw [ih (Nat.le_of_succ_le_succ hle) h]
        rfl
      · contradiction

/-- The first of the records read are read when fewer are counted. -/
theorem records_take {table : Option SizeTable} {m n done : Nat} {rest after : List Char}
    {texts : List (List Char)} (hle : m ≤ n)
    (h : records table n done rest = .ok (texts, after)) :
    ∃ last, records table m done rest = .ok (texts.take m, last) := by
  obtain ⟨sizes, hwalk, rfl, _⟩ := records_eq_ok_iff.mp h
  exact ⟨_, records_eq_ok_iff.mpr
    ⟨sizes.take m, hwalk.take m, List.length_take_of_le hle, rfl⟩⟩

/-! ## Messages -/

theorem decode_of_isCount {radix : CountRadix} {table : Option SizeTable} {stream : List Char}
    {n : Nat} (h : IsCount radix (stream.take countWidth) n) :
    decode ⟨table, some radix⟩ stream
      = (records table n countWidth (stream.drop countWidth)).map fun read =>
          ⟨read.1.map fun text => String.ofList ('0' :: 'x' :: text), n, read.2.length⟩ := by
  have hlong : countWidth ≤ stream.length := by
    have hwidth := h.width
    rw [List.length_take] at hwidth
    omega
  have hread : readCount (some radix) (stream.take countWidth) = .ok n := by
    rw [readCount, read_of_isCount h]
    rfl
  rw [decode_of_long hlong, hread, Outcome.bind_ok, Int.toNat_natCast]

/-- Let a message start with four decimal digits.  If it decodes in the hexadecimal radix then in
the decimal one to the first of the ids, as many as the digits denote.  What stops it in the
decimal radix stops it in the hexadecimal one.  If the first three digits are zeros the radix does
not matter. -/
theorem decode_hex_of_decimal_digits {stream : List Char} (hlong : countWidth ≤ stream.length)
    (hdigits : ∀ c ∈ stream.take countWidth, Text.isDecimalDigit c = true)
    (table : Option SizeTable) :
    ∃ m, valueFrom 10 0 (stream.take countWidth) = some m ∧
      (∀ batch, decode ⟨table, some .hex⟩ stream = .ok batch →
        ∃ fewer, decode ⟨table, some .decimal⟩ stream = .ok fewer ∧
          fewer.ids <+: batch.ids ∧ fewer.ids.length = m) ∧
      (∀ fault, decode ⟨table, some .decimal⟩ stream = .error fault →
        decode ⟨table, some .hex⟩ stream = .error fault) ∧
      (stream.take 3 = ['0', '0', '0'] →
        decode ⟨table, some .hex⟩ stream = decode ⟨table, some .decimal⟩ stream) := by
  have hwidth : (stream.take countWidth).length = countWidth := List.length_take_of_le hlong
  obtain ⟨m, hm⟩ := @exists_isCount .decimal _ hwidth hdigits
  obtain ⟨n, hn⟩ := @exists_isCount .hex _ hwidth hm.allHex
  have hle : m ≤ n := valueFrom_le (by decide) (Nat.le_refl 0) hm.value hn.value
  rw [decode_of_isCount hm, decode_of_isCount hn]
  refine ⟨m, hm.value, ?_, ?_, ?_⟩
  · intro batch h
    obtain ⟨⟨texts, after⟩, hrecords, rfl⟩ := Outcome.map_eq_ok_iff.mp h
    obtain ⟨last, hfewer⟩ := records_take hle hrecords
    obtain ⟨_, _, hlength, _⟩ := records_eq_ok_iff.mp hfewer
    rw [hfewer, Outcome.map_ok]
    refine ⟨_, rfl, (List.take_prefix m texts).map _, ?_⟩
    rw [List.length_map]
    exact hlength
  · intro fault h
    rw [records_error_of_le hle (Outcome.map_eq_error_iff.mp h), Outcome.map_error]
  · intro hzeros
    have hsame : (stream.take countWidth).take 3 = stream.take 3 := by
      rw [List.take_take]
      rfl
    have hvalue := value_of_zeros hwidth (hsame.trans hzeros) hm.value
    obtain rfl : m = n := Option.some.inj (hvalue.symm.trans hn.value)
    rfl

/-- Sixteen records of zeros behind a count that is ten in the decimal radix. -/
private def sixteenZeros : List Char :=
  ['0', '0', '1', '0'] ++ ((List.replicate 16 (List.replicate 214 '0')).flatten ++ [])

private theorem decode_sixteenZeros :
    decode ⟨some .assetClassGated, some .hex⟩ sixteenZeros
      = .ok (Wire.contents (List.replicate 16 (List.replicate 214 '0')) []) := by
  have hhex : AllHex sixteenZeros := by
    intro c hc
    rw [sixteenZeros, List.append_nil, List.mem_append, List.mem_flatten] at hc
    rcases hc with hc | ⟨record, hrecord, hc⟩
    · exact Text.allHex_iff_all.mpr (by decide : ['0', '0', '1', '0'].all _ = true) c hc
    · rw [(List.mem_replicate.mp hrecord).2] at hc
      rw [(List.mem_replicate.mp hc).2]
      rfl
  apply Wire.decode_of_isMessage hhex
  refine ⟨rfl, rfl, rfl, ?_⟩
  intro record hrecord
  rw [(List.mem_replicate.mp hrecord).2]
  exact ⟨.inl ⟨rfl, List.length_replicate⟩, fun _ => rfl⟩

/-- Of sixteen records the first ten are read in the decimal radix. -/
theorem decode_hex_of_decimal_digits_sixteen :
    ∃ batch fewer, decode ⟨some .assetClassGated, some .hex⟩ sixteenZeros = .ok batch ∧
      batch.ids.length = 16 ∧
      decode ⟨some .assetClassGated, some .decimal⟩ sixteenZeros = .ok fewer ∧
      fewer.ids <+: batch.ids ∧ fewer.ids.length = 10 := by
  have hfront : sixteenZeros.take countWidth = ['0', '0', '1', '0'] := rfl
  have hcountWidth : countWidth = 4 := rfl
  have hlong : countWidth ≤ sixteenZeros.length := by
    have hlength : (sixteenZeros.take countWidth).length = 4 := congrArg List.length hfront
    rw [List.length_take] at hlength
    omega
  have hdigits : ∀ c ∈ sixteenZeros.take countWidth, Text.isDecimalDigit c = true := by
    rw [hfront]
    exact List.all_eq_true.mp (by decide)
  obtain ⟨m, hm, hfewer, _⟩ :=
    decode_hex_of_decimal_digits hlong hdigits (some .assetClassGated)
  rw [hfront] at hm
  obtain rfl : 10 = m := Option.some.inj hm
  obtain ⟨fewer, hdecode, hprefix, hlength⟩ := hfewer _ decode_sixteenZeros
  exact ⟨_, fewer, decode_sixteenZeros, by simp [Wire.contents], hdecode, hprefix, hlength⟩

/-! ## Faults of counts -/

/-- Whether a fault tells of a count. -/
def tellsOfCount : Fault → Bool
  | .codec (.countNotDecimal _) | .codec (.countNotHex _) => true
  | _ => false

theorem tellsOfCount_refusal (radix : CountRadix) (text : List Char) :
    tellsOfCount (.codec (radix.refusal text)) = true := by
  cases radix <;> rfl

theorem tellsOfCount_raised {fault : Fault} (h : tellsOfCount fault = false) :
    tellsOfCount fault.raised = false := by
  rw [Fault.raised]
  split
  · exact h
  · rfl

/-- Any fault of an outcome tells of something else than a count. -/
abbrev TellsNotOfCount {α : Type} (x : Outcome α) : Prop :=
  Outcome.Within (fun fault => tellsOfCount fault = false) x

theorem take_tellsNotOfCount (done width : Nat) (rest : List Char) :
    TellsNotOfCount ((take done width rest).mapError .codec) := by
  unfold take
  split
  · exact .ok _
  · exact .error rfl

/-- A hex word is refused for its digits or for their number. -/
theorem parseHex_error {limit : Option Int} {s : String} {fault : CodecFault}
    (h : parseHex limit s = .error fault) :
    fault = .notHexWord s ∨ ∃ most, fault = .wideHexWord most s := by
  unfold parseHex at h
  dsimp only at h
  split at h
  · exact .inl (Except.error.inj h).symm
  · split at h
    · exact .inl (Except.error.inj h).symm
    · split at h
      · contradiction
      · split at h
        · exact .inr ⟨_, (Except.error.inj h).symm⟩
        · contradiction

theorem ofHex_tellsNotOfCount (s : String) :
    TellsNotOfCount ((Id.ofHex s).mapError .codec) := by
  intro fault h
  obtain ⟨cause, hcause, rfl⟩ := Outcome.mapError_eq_error_iff.mp h
  rcases Outcome.bind_eq_error_iff.mp (Outcome.map_eq_error_iff.mp hcause) with h | ⟨n, _, h⟩
  · rcases parseHex_error h with rfl | ⟨most, rfl⟩ <;> rfl
  · unfold Word256.inRange at h
    split at h
    · contradiction
    · obtain rfl := Except.error.inj h
      rfl

theorem sizeOf_tellsNotOfCount (table : Option SizeTable) (assetClass feedType : Int) :
    TellsNotOfCount (sizeOf table assetClass feedType) := by
  cases table with
  | none => exact .error rfl
  | some table =>
    rw [sizeOf, SizeTable.size]
    split
    · split
      · exact .ok _
      · exact .error (tellsOfCount_raised rfl)
    · exact .error (tellsOfCount_raised rfl)

/-- Nothing that stops the decoder at a record tells of the count. -/
theorem records_tellsNotOfCount (table : Option SizeTable) (n done : Nat) (rest : List Char) :
    TellsNotOfCount (records table n done rest) := by
  induction n generalizing done rest with
  | zero => exact .ok _
  | succ n ih =>
    have hrecord : TellsNotOfCount (record table done rest) :=
      .bind (take_tellsNotOfCount _ _ _) fun _ =>
        .bind (ofHex_tellsNotOfCount _) fun _ =>
          .bind (sizeOf_tellsNotOfCount _ _ _) fun _ =>
            .bind (take_tellsNotOfCount _ _ _) fun _ => .ok _
    exact .bind hrecord fun _ => .bind (ih _ _) fun _ => .ok _

/-! ## What is taken for a count -/

theorem decode_of_long_error {radix : CountRadix} {table : Option SizeTable} {stream : List Char}
    (hlong : countWidth ≤ stream.length)
    (h : radix.read (stream.take countWidth) = .error (radix.refusal (stream.take countWidth))) :
    decode ⟨table, some radix⟩ stream
      = .error (.codec (radix.refusal (stream.take countWidth))) := by
  rw [decode_of_long hlong, readCount, h]
  rfl

/-- A count that is read is not refused. -/
theorem decode_ne_refusal_of_read {radix : CountRadix} {table : Option SizeTable}
    {stream text : List Char} {n : Int} (hlong : countWidth ≤ stream.length)
    (h : radix.read (stream.take countWidth) = .ok n) :
    decode ⟨table, some radix⟩ stream ≠ .error (.codec (radix.refusal text)) := by
  intro hrefused
  have hrecords := records_tellsNotOfCount table n.toNat countWidth (stream.drop countWidth)
  rw [decode_of_long hlong, readCount, h] at hrefused
  have hother := hrecords.map _ _ hrefused
  rw [tellsOfCount_refusal] at hother
  contradiction

/-- A message that decodes starts with a count, and as many ids are returned.  In the hexadecimal
radix it may also start with another numeral; then as many ids are returned as its value tells, none
if it is negative.  The four characters in front are refused exactly if they are neither. -/
theorem decode_count (radix : CountRadix) (table : Option SizeTable) (stream : List Char) :
    (∀ batch, decode ⟨table, some radix⟩ stream = .ok batch →
      IsCount radix (stream.take countWidth) batch.ids.length ∨
        (radix = .hex ∧ ∃ n, IsLoose (stream.take countWidth) n ∧
          batch.ids.length = n.toNat)) ∧
    (countWidth ≤ stream.length →
      (decode ⟨table, some radix⟩ stream
          = .error (.codec (radix.refusal (stream.take countWidth))) ↔
        (¬ ∀ c ∈ stream.take countWidth, radix.isDigit c = true) ∧
          ¬ (radix = .hex ∧ ∃ n, IsLoose (stream.take countWidth) n))) := by
  constructor
  · intro batch h
    obtain ⟨count, texts, sizes, hlong, hcount, _, hlength, rfl⟩ := decode_eq_ok_iff.mp h
    have hids : (texts.map fun text => String.ofList ('0' :: 'x' :: text)).length
        = count.toNat := by rw [List.length_map, hlength]
    have hread : radix.read (stream.take countWidth) = .ok count :=
      Outcome.mapError_eq_ok_iff.mp hcount
    rcases isCount_or_isLoose_or_refused radix (List.length_take_of_le hlong) with
      ⟨n, hn⟩ | ⟨rfl, n, hn⟩ | hrefused
    · obtain rfl : (n : Int) = count := Except.ok.inj ((read_of_isCount hn).symm.trans hread)
      left
      rw [hids]
      exact hn
    · obtain rfl : n = count := Except.ok.inj ((read_of_isLoose hn).symm.trans hread)
      exact .inr ⟨rfl, n, hn, hids⟩
    · rw [hrefused] at hread
      contradiction
  · intro hlong
    have hwidth : (stream.take countWidth).length = countWidth := List.length_take_of_le hlong
    constructor
    · intro h
      constructor
      · intro hdigits
        obtain ⟨n, hn⟩ := exists_isCount hwidth hdigits
        exact decode_ne_refusal_of_read hlong (read_of_isCount hn) h
      · rintro ⟨rfl, n, hn⟩
        exact decode_ne_refusal_of_read hlong (read_of_isLoose hn) h
    · rintro ⟨hdigits, hloose⟩
      rcases isCount_or_isLoose_or_refused radix hwidth with ⟨n, hn⟩ | h | hrefused
      · exact absurd hn.digits hdigits
      · exact absurd h hloose
      · exact decode_of_long_error hlong hrefused

/-- A record of zeros behind a count with a mark. -/
private def markedOne : List Char := ['0', 'x', '0', '1'] ++ List.replicate 214 '0'

set_option maxRecDepth 4000 in
private theorem decode_markedOne :
    decode ⟨some .assetClassGated, some .hex⟩ markedOne
      = .ok ⟨[String.ofList ('0' :: 'x' :: List.replicate 64 '0')], 1, 0⟩ := rfl

/-- A marked numeral counts one record.  A letter is refused in the decimal radix, and one that is
no digit in the hexadecimal radix too. -/
theorem decode_count_marked :
    (∃ n, IsLoose ['0', 'x', '0', '1'] n ∧ 1 = n.toNat) ∧
    decode ⟨some .assetClassGated, some .decimal⟩ ['0', '0', 'a', '1']
      = .error (.codec (.countNotDecimal "00a1")) ∧
    decode ⟨some .assetClassGated, some .hex⟩ ['0', '0', 'z', 'z']
      = .error (.codec (.countNotHex "00zz")) := by
  refine ⟨?_, ?_, ?_⟩
  · have hfront : markedOne.take countWidth = ['0', 'x', '0', '1'] := rfl
    have hread := (decode_count .hex (some .assetClassGated) markedOne).1 _ decode_markedOne
    rw [hfront] at hread
    rcases hread with h | ⟨_, n, hn, hlength⟩
    · exact absurd (h.digits 'x' (by simp)) (by decide)
    · exact ⟨n, hn, hlength⟩
  · refine ((decode_count .decimal (some .assetClassGated) ['0', '0', 'a', '1']).2
      (by decide)).mpr ⟨?_, ?_⟩
    · intro hdigits
      exact absurd (hdigits 'a' (by simp [countWidth])) (by decide)
    · rintro ⟨hradix, _⟩
      contradiction
  · refine ((decode_count .hex (some .assetClassGated) ['0', '0', 'z', 'z']).2
      (by decide)).mpr ⟨?_, ?_⟩
    · intro hdigits
      exact absurd (hdigits 'z' (by simp [countWidth])) (by decide)
    · rintro ⟨_, n, hn⟩
      have hread : Text.Numeral.read 16 ['0', '0', 'z', 'z'] = some n :=
        Text.Numeral.read_eq_some_iff.mpr hn.numeral
      contradiction

/-- A sign is accepted in front of a hexadecimal count, and less than no records are read. -/
theorem decode_negative_count :
    decode ⟨some .assetClassGated, some .hex⟩ ['-', '0', '0', '1'] = .ok ⟨[], -1, 0⟩ ∧
      ¬ ∀ c ∈ ['-', '0', '0', '1'], CountRadix.hex.isDigit c = true :=
  ⟨rfl, fun h => absurd (h '-' (by simp)) (by decide)⟩

end Batch

end OracleIndexer.Feed
