import OracleIndexer.Proofs.Feed.Wire
set_option autoImplicit false

/-!
# Decoding feed messages

Decoding follows the grammar of messages: a step on a record is complete for well-formed records and
reports the defect of any other, and so do any number of steps.  Since each message either is in the
grammar or has a first defect, the decoder is sound as well.
-/

namespace OracleIndexer.Feed.Wire

open Text (AllHex slice)
open Text.HexWord (value? valueFrom valueFrom_cons isDecimalDigit_of_valueFrom)

/-! ## Counts -/

/-- Decimal digits have the value that a fold over them computes. -/
theorem valueFrom_ten_eq_foldl {text : List Char} {start : Nat}
    (h : ∀ c ∈ text, Text.isDecimalDigit c = true) :
    valueFrom 10 start text
      = some (text.foldl (fun value c => value * 10 + (c.toNat - 48)) start) := by
  induction text generalizing start with
  | nil => rfl
  | cons c rest ih =>
    obtain ⟨hc, hrest⟩ := List.forall_mem_cons.mp h
    rw [valueFrom_cons, Text.digitValue?_ten, if_pos hc, Option.bind_some, ih hrest]
    rfl

theorem read_of_denotes {radix : CountRadix} {count : List Char} {n : Nat} (hne : count ≠ [])
    (hhex : AllHex count) (h : valueFrom radix.base 0 count = some n) :
    radix.read count = .ok n := by
  cases radix with
  | decimal =>
    have hdecimal := isDecimalDigit_of_valueFrom h
    have hall : (!count.isEmpty && count.all Text.isDecimalDigit) = true := by
      simpa [hne] using hdecimal
    have hvalue : n = count.foldl (fun value c => value * 10 + (c.toNat - 48)) 0 :=
      Option.some.inj (h.symm.trans (valueFrom_ten_eq_foldl hdecimal))
    rw [CountRadix.read, if_pos hall, hvalue]
  | hex =>
    have hvalue : value? count = some n := h
    simp only [CountRadix.read, Text.Numeral.read_of_allHex hne hhex, hvalue, Option.map_some]
    rfl

theorem read_of_not_decimal {text : List Char}
    (h : ∃ c ∈ text, Text.isDecimalDigit c = false) :
    CountRadix.decimal.read text = .error (.countNotDecimal (String.ofList text)) := by
  have hnot : ¬ (!text.isEmpty && text.all Text.isDecimalDigit) = true := by
    intro hall
    obtain ⟨_, hdecimal⟩ := (Bool.and_eq_true_iff).mp hall
    obtain ⟨c, hc, hbad⟩ := h
    rw [List.all_eq_true.mp hdecimal c hc] at hbad
    exact Bool.noConfusion hbad
  rw [CountRadix.read, if_neg hnot]

/-- Hexadecimal digits denote a count, if they are not to be decimal. -/
theorem denotes_or_not_decimal (radix : CountRadix) {count : List Char} (h : AllHex count) :
    (∃ n, valueFrom radix.base 0 count = some n) ∨
      (radix = .decimal ∧ ∃ c ∈ count, Text.isDecimalDigit c = false) := by
  cases radix with
  | hex =>
    obtain ⟨n, hn, _⟩ := Text.HexWord.value?_eq_some_of_allHex h
    exact .inl ⟨n, hn⟩
  | decimal =>
    by_cases hdecimal : ∀ c ∈ count, Text.isDecimalDigit c = true
    · exact .inl ⟨_, valueFrom_ten_eq_foldl hdecimal⟩
    · push Not at hdecimal
      obtain ⟨c, hc, hbad⟩ := hdecimal
      exact .inr ⟨rfl, c, hc, Bool.eq_false_iff.mpr hbad⟩

/-! ## One record -/

theorem take_of_le {done width : Nat} {rest : List Char} (h : width ≤ rest.length) :
    Batch.take done width rest = .ok (rest.take width) := if_pos h

theorem take_of_lt {done width : Nat} {rest : List Char} (h : rest.length < width) :
    Batch.take done width rest = .error (.truncated (done + width) (done + rest.length)) :=
  if_neg (Nat.not_le.mpr h)

/-- The size of a record is refused by name if the asset class can be told. -/
theorem sizeOf_eq {table : SizeTable} {assetClass : Int} (feedType : Int)
    (h : Text.Numeral.isWritable assetClass = true) :
    Batch.sizeOf (some table) assetClass feedType
      = (table.size assetClass feedType).mapError .codec := by
  refine CodecFault.raise_of_isWritable fun fault hfault => ?_
  rw [SizeTable.size] at hfault
  split at hfault
  · split at hfault
    · cases hfault
    · rw [← Except.error.inj hfault]
      exact h
  · rw [← Except.error.inj hfault]
    exact h

/-- Behind a whole id the record's step depends on the size that the id is given. -/
theorem record_of_id {table : SizeTable} {done assetClass feedType : Nat} {rest : List Char}
    (hid : 64 ≤ rest.length) (hhex : AllHex rest)
    (hclass : value? (slice 2 4 rest) = some assetClass)
    (htype : value? (slice 6 4 rest) = some feedType) :
    Batch.record (some table) done rest
      = ((table.size assetClass feedType).mapError .codec).bind fun size =>
          ((Batch.take done size rest).mapError .codec).bind fun _ =>
            .ok (rest.take 64, size) := by
  have hwidth : Id.width = 64 := rfl
  have hlength : (rest.take 64).length = Id.width := List.length_take_of_le hid
  obtain ⟨reserved, class', type', pairId, _, hclass', htype', _, hread⟩ :=
    Id.ofHex_of_digits hlength (hhex.take 64)
  rw [Text.slice_take rest (by decide), hclass] at hclass'
  rw [Text.slice_take rest (by decide), htype] at htype'
  obtain rfl := Option.some.inj hclass'
  obtain rfl := Option.some.inj htype'
  have hsize : Batch.sizeOf (some table) assetClass feedType = _ :=
    sizeOf_eq (feedType : Int) (Id.isWritable_assetClass hread)
  rw [Batch.record, hwidth, take_of_le hid, Outcome.mapError_ok, Outcome.ok_bind, hread,
    Outcome.mapError_ok, Outcome.ok_bind, hsize]
  rfl

/-- The fields that decide on a record are there in any whole id. -/
theorem exists_fields {rest : List Char} (hhex : AllHex rest) :
    ∃ assetClass feedType, value? (slice 2 4 rest) = some assetClass ∧
      value? (slice 6 4 rest) = some feedType := by
  obtain ⟨assetClass, hclass, _⟩ := Text.HexWord.value?_eq_some_of_allHex (hhex.slice 2 4)
  obtain ⟨feedType, htype, _⟩ := Text.HexWord.value?_eq_some_of_allHex (hhex.slice 6 4)
  exact ⟨assetClass, feedType, hclass, htype⟩

theorem record_of_callsFor {table : SizeTable} {done size : Nat} {rest : List Char}
    (hhex : AllHex rest) (hcalls : CallsFor table rest size) (hle : size ≤ rest.length) :
    Batch.record (some table) done rest = .ok (rest.take 64, size) := by
  have hid : 64 ≤ rest.length := Nat.le_trans hcalls.id_le hle
  obtain ⟨assetClass, feedType, hclass, htype⟩ := exists_fields hhex
  rw [record_of_id hid hhex hclass htype,
    size_of_callsFor (by omega) hhex hclass htype hcalls, Outcome.mapError_ok, Outcome.bind_ok,
    take_of_le hle]
  rfl

theorem record_of_defect {table : SizeTable} {done : Nat} {rest : List Char} {fault : CodecFault}
    (hhex : AllHex rest) (h : Defect table done rest fault) :
    Batch.record (some table) done rest = .error (.codec fault) := by
  cases h with
  | noId short =>
    have hwidth : Id.width = 64 := rfl
    rw [Batch.record, hwidth, take_of_lt short]
    rfl
  | noSize id unknown hclass htype =>
    rw [record_of_id id hhex hclass htype,
      size_of_not_callsFor (by omega) hhex hclass htype unknown]
    rfl
  | noEnd id calls short =>
    obtain ⟨assetClass, feedType, hclass, htype⟩ := exists_fields hhex
    rw [record_of_id id hhex hclass htype,
      size_of_callsFor (by omega) hhex hclass htype calls, Outcome.mapError_ok,
      Outcome.bind_ok, take_of_lt short]
    rfl

/-- Characters start with a record or with a defect. -/
theorem callsFor_or_defect (table : SizeTable) (before : Nat) {rest : List Char}
    (hhex : AllHex rest) :
    (∃ size, CallsFor table rest size ∧ size ≤ rest.length) ∨
      ∃ fault, Defect table before rest fault := by
  by_cases hid : 64 ≤ rest.length
  · by_cases hcalls : ∃ size, CallsFor table rest size
    · obtain ⟨size, hsize⟩ := hcalls
      by_cases hle : size ≤ rest.length
      · exact .inl ⟨size, hsize, hle⟩
      · exact .inr ⟨_, .noEnd hid hsize (by omega)⟩
    · obtain ⟨assetClass, feedType, hclass, htype⟩ := exists_fields hhex
      exact .inr ⟨_, .noSize hid (fun size h => hcalls ⟨size, h⟩) hclass htype⟩
  · exact .inr ⟨_, .noId (by omega)⟩

/-! ## All records -/

/-- A record in front of anything is read as a whole. -/
theorem records_cons {table : SizeTable} {n done : Nat} {record rest : List Char}
    (hhex : AllHex (record ++ rest)) (hrecord : IsRecord table record) :
    Batch.records (some table) (n + 1) done (record ++ rest)
      = (Batch.records (some table) n (done + record.length) rest).map fun (more, after) =>
          (record.take 64 :: more, after) := by
  have hid : 64 ≤ record.length := hrecord.id_le
  have hfront : (record ++ rest).take record.length = record := List.take_left
  have hcalls : CallsFor table (record ++ rest) record.length := by
    rw [← callsFor_take (by omega : 8 ≤ record.length), hfront]
    exact hrecord
  have hstep : Batch.record (some table) done (record ++ rest)
      = .ok ((record ++ rest).take 64, record.length) :=
    record_of_callsFor hhex hcalls (by simp)
  rw [Batch.records, hstep, Outcome.ok_bind]
  simp only [List.take_append_of_le_length hid, List.drop_left]
  cases Batch.records (some table) n (done + record.length) rest <;> rfl

theorem records_of_each {table : SizeTable} {records : List (List Char)} {tail : List Char}
    (done : Nat) (hhex : AllHex (records.flatten ++ tail))
    (heach : ∀ record ∈ records, IsRecord table record) :
    Batch.records (some table) records.length done (records.flatten ++ tail)
      = .ok (records.map (·.take 64), tail) := by
  induction records generalizing done with
  | nil => rfl
  | cons record more ih =>
    obtain ⟨hrecord, hmore⟩ := List.forall_mem_cons.mp heach
    rw [List.flatten_cons, List.append_assoc] at hhex ⊢
    rw [List.length_cons, records_cons hhex hrecord,
      ih _ (hhex.of_subset (List.subset_append_right _ _)) hmore]
    rfl

theorem records_of_defect {table : SizeTable} {records : List (List Char)} {rest : List Char}
    {n done : Nat} {fault : CodecFault} (hhex : AllHex (records.flatten ++ rest))
    (hfewer : records.length < n) (heach : ∀ record ∈ records, IsRecord table record)
    (hdefect : Defect table (done + records.flatten.length) rest fault) :
    Batch.records (some table) n done (records.flatten ++ rest) = .error (.codec fault) := by
  induction records generalizing n done with
  | nil =>
    obtain ⟨m, rfl⟩ := Nat.exists_eq_succ_of_ne_zero (Nat.ne_of_gt hfewer)
    rw [List.flatten_nil, List.nil_append] at hhex ⊢
    have hstep : Batch.record (some table) done rest = .error (.codec fault) :=
      record_of_defect hhex hdefect
    rw [Batch.records, hstep]
    rfl
  | cons record more ih =>
    obtain ⟨m, rfl⟩ := Nat.exists_eq_succ_of_ne_zero (Nat.ne_of_gt (Nat.zero_lt_of_lt hfewer))
    obtain ⟨hrecord, hmore⟩ := List.forall_mem_cons.mp heach
    rw [List.flatten_cons, List.length_append, ← Nat.add_assoc] at hdefect
    rw [List.flatten_cons, List.append_assoc] at hhex ⊢
    rw [records_cons hhex hrecord,
      ih (hhex.of_subset (List.subset_append_right _ _)) (Nat.lt_of_succ_lt_succ hfewer) hmore
        hdefect]
    rfl

/-- Characters start with any number of records, or with fewer and a defect. -/
theorem records_or_defect (table : SizeTable) (n done : Nat) {rest : List Char}
    (hhex : AllHex rest) :
    ∃ (records : List (List Char)) (behind : List Char), rest = records.flatten ++ behind ∧
      (∀ record ∈ records, IsRecord table record) ∧
      (records.length = n ∨ (records.length < n ∧
        ∃ fault, Defect table (done + records.flatten.length) behind fault)) := by
  induction n generalizing done rest with
  | zero => exact ⟨[], rest, rfl, by simp, .inl rfl⟩
  | succ n ih =>
    rcases callsFor_or_defect table done hhex with ⟨size, hcalls, hle⟩ | ⟨fault, hdefect⟩
    · have hlength : (rest.take size).length = size := List.length_take_of_le hle
      have hrecord : IsRecord table (rest.take size) := by
        rw [IsRecord, hlength, callsFor_take (Nat.le_trans (by decide) hcalls.id_le)]
        exact hcalls
      obtain ⟨records, behind, hrest, heach, hcount⟩ := ih (done + size) (hhex.drop size)
      refine ⟨rest.take size :: records, behind, ?_, List.forall_mem_cons.mpr ⟨hrecord, heach⟩,
        ?_⟩
      · rw [List.flatten_cons, List.append_assoc, ← hrest, List.take_append_drop]
      · rw [List.flatten_cons, List.length_append, hlength, ← Nat.add_assoc, List.length_cons]
        rcases hcount with hall | ⟨hfewer, hdefect⟩
        · exact .inl (congrArg (· + 1) hall)
        · exact .inr ⟨Nat.succ_lt_succ hfewer, hdefect⟩
    · exact ⟨[], rest, rfl, by simp, .inr ⟨Nat.succ_pos n, fault, hdefect⟩⟩

/-! ## Messages -/

/-- The front of a message with a count and all that follows. -/
theorem decode_of_count {radix : CountRadix} {table : SizeTable} {count rest : List Char} {n : Nat}
    (hwidth : count.length = 4) (hhex : AllHex count)
    (hdenotes : valueFrom radix.base 0 count = some n) :
    Batch.decode ⟨some table, some radix⟩ (count ++ rest)
      = (Batch.records (some table) n 4 rest).map fun (ids, after) =>
          ⟨ids.map fun digits => String.ofList ('0' :: 'x' :: digits), n, after.length⟩ := by
  have hcountWidth : Batch.countWidth = count.length := hwidth.symm
  have hne : count ≠ [] := List.ne_nil_of_length_pos (by omega)
  have hlong : count.length ≤ (count ++ rest).length := by simp
  have hread : Batch.readCount (some radix) count = .ok n := by
    rw [Batch.readCount, read_of_denotes hne hhex hdenotes]
    rfl
  rw [Batch.decode, hcountWidth, take_of_le hlong, List.take_left, Outcome.mapError_ok,
    Outcome.ok_bind, hread, Outcome.ok_bind, List.drop_left, hwidth, Int.toNat_natCast]
  cases Batch.records (some table) n 4 rest <;> rfl

theorem decode_of_isMessage {radix : CountRadix} {table : SizeTable}
    {stream count tail : List Char} {records : List (List Char)} (hhex : AllHex stream)
    (h : IsMessage radix table stream count records tail) :
    Batch.decode ⟨some table, some radix⟩ stream = .ok (contents records tail) := by
  obtain ⟨rfl, hwidth, hdenotes, heach⟩ := h
  have hcount : AllHex count := hhex.of_subset (List.subset_append_left _ _)
  have hrest : AllHex (records.flatten ++ tail) := hhex.of_subset (List.subset_append_right _ _)
  rw [decode_of_count hwidth hcount hdenotes, records_of_each 4 hrest heach, Outcome.map_ok,
    contents]
  simp only [List.map_map]
  rfl

theorem decode_of_firstDefect {radix : CountRadix} {table : SizeTable} {stream : List Char}
    {fault : CodecFault} (hhex : AllHex stream) (h : FirstDefect radix table stream fault) :
    Batch.decode ⟨some table, some radix⟩ stream = .error (.codec fault) := by
  have hcountWidth : Batch.countWidth = 4 := rfl
  cases h with
  | noCount short =>
    rw [Batch.decode, hcountWidth, take_of_lt short, Nat.zero_add, Nat.zero_add]
    rfl
  | badCount decimal long bad =>
    rw [Batch.decode, hcountWidth, take_of_le long, Outcome.mapError_ok, Outcome.ok_bind, decimal,
      Batch.readCount, read_of_not_decimal bad]
    rfl
  | badRecord stream_eq width denotes fewer each defect =>
    subst stream_eq
    have hcount := hhex.of_subset (List.subset_append_left _ _)
    have hrest := hhex.of_subset (List.subset_append_right _ _)
    rw [decode_of_count width hcount denotes, records_of_defect hrest fewer each defect]
    rfl

/-- A stream of hexadecimal digits is a message or has a first defect. -/
theorem isMessage_or_firstDefect (radix : CountRadix) (table : SizeTable) {stream : List Char}
    (hhex : AllHex stream) :
    (∃ count records tail, IsMessage radix table stream count records tail) ∨
      ∃ fault, FirstDefect radix table stream fault := by
  by_cases hlong : 4 ≤ stream.length
  · have hwidth : (stream.take 4).length = 4 := List.length_take_of_le hlong
    have hsplit : ∀ rest, stream.drop 4 = rest → stream = stream.take 4 ++ rest := by
      rintro _ rfl
      exact (List.take_append_drop 4 stream).symm
    rcases denotes_or_not_decimal radix (hhex.take 4) with ⟨n, hn⟩ | ⟨hdecimal, hbad⟩
    · obtain ⟨records, behind, hrest, heach, hall | ⟨hfewer, fault, hdefect⟩⟩ :=
        records_or_defect table n 4 (hhex.drop 4)
      · subst hall
        exact .inl ⟨_, records, behind, hsplit _ hrest, hwidth, hn, heach⟩
      · exact .inr ⟨fault, .badRecord (hsplit _ hrest) hwidth hn hfewer heach hdefect⟩
    · exact .inr ⟨_, .badCount hdecimal hlong hbad⟩
  · exact .inr ⟨_, .noCount (by omega)⟩

/-- The line on what follows the last record. -/
theorem remark?_contents (records : List (List Char)) (tail : List Char) :
    (contents records tail).remark?
      = if tail = [] then none
        else some s!"ignoring {tail.length} trailing hex chars after {records.length} records" := by
  by_cases htail : tail = []
  · subst htail
    rfl
  · have hlength : ¬ tail.length = 0 := by simpa using htail
    rw [Batch.remark?, if_neg htail]
    exact if_neg hlength

/-- The decoder accepts the messages of the grammar and no others.  Of a message it returns the ids
of the records and remarks on a tail; of any other stream it reports the first defect. -/
theorem decode_iff_of_allHex {stream : List Char} (hhex : AllHex stream) (radix : CountRadix)
    (table : SizeTable) :
    (∀ batch, Batch.decode ⟨some table, some radix⟩ stream = .ok batch ↔
      ∃ count records tail, IsMessage radix table stream count records tail ∧
        batch = contents records tail ∧
        batch.remark? = if tail = [] then none
          else some s!"ignoring {tail.length} trailing hex chars after {records.length} records") ∧
    ∀ fault, Batch.decode ⟨some table, some radix⟩ stream = .error fault ↔
      ∃ defect, FirstDefect radix table stream defect ∧ fault = .codec defect := by
  refine ⟨?_, ?_⟩
  · intro batch
    constructor
    · intro hdecode
      rcases isMessage_or_firstDefect radix table hhex with
        ⟨count, records, tail, hmessage⟩ | ⟨defect, hdefect⟩
      · rw [decode_of_isMessage hhex hmessage] at hdecode
        obtain rfl := Except.ok.inj hdecode
        exact ⟨count, records, tail, hmessage, rfl, remark?_contents records tail⟩
      · rw [decode_of_firstDefect hhex hdefect] at hdecode
        contradiction
    · rintro ⟨count, records, tail, hmessage, rfl, _⟩
      exact decode_of_isMessage hhex hmessage
  · intro fault
    constructor
    · intro hdecode
      rcases isMessage_or_firstDefect radix table hhex with
        ⟨count, records, tail, hmessage⟩ | ⟨defect, hdefect⟩
      · rw [decode_of_isMessage hhex hmessage] at hdecode
        contradiction
      · rw [decode_of_firstDefect hhex hdefect] at hdecode
        exact ⟨defect, hdefect, (Except.error.inj hdecode).symm⟩
    · rintro ⟨defect, hdefect, rfl⟩
      exact decode_of_firstDefect hhex hdefect

/-- A message that declares one record. -/
private def declaresOne (records : List (List Char)) (rest : List Char) : List Char :=
  ['0', '0', '0', '1'] ++ (records.flatten ++ rest)

private theorem allHex_declaresOne {records : List (List Char)} {rest : List Char}
    (hrecords : AllHex records.flatten) (hrest : AllHex rest) :
    AllHex (declaresOne records rest) := by
  intro c hc
  rcases List.mem_append.mp hc with hc | hc
  · exact Text.allHex_iff_all.mpr (by decide : ['0', '0', '0', '1'].all _ = true) c hc
  · rcases List.mem_append.mp hc with hc | hc
    · exact hrecords c hc
    · exact hrest c hc

private theorem allHex_replicate_zero (width : Nat) : AllHex (List.replicate width '0') := by
  intro c hc
  rw [(List.mem_replicate.mp hc).2]
  rfl

/-- A record of zeros is complete at 214 characters; what stands behind it is a tail. -/
theorem decode_zeros :
    (AllHex (declaresOne [List.replicate 214 '0'] ['a', 'B']) ∧
      AllHex (declaresOne [] (List.replicate 213 '0'))) ∧
    (∃ batch, Batch.decode ⟨some .assetClassGated, some .decimal⟩
        (declaresOne [List.replicate 214 '0'] ['a', 'B']) = .ok batch ∧
      batch.remark? = some "ignoring 2 trailing hex chars after 1 records") ∧
    Batch.decode ⟨some .assetClassGated, some .decimal⟩
        (declaresOne [] (List.replicate 213 '0'))
      = .error (.codec (.truncated 218 217)) := by
  have hlong : AllHex (declaresOne [List.replicate 214 '0'] ['a', 'B']) :=
    allHex_declaresOne (by simpa using allHex_replicate_zero 214)
      (Text.allHex_iff_all.mpr (by decide))
  have hshort : AllHex (declaresOne [] (List.replicate 213 '0')) :=
    allHex_declaresOne (by simp [AllHex]) (allHex_replicate_zero 213)
  have heach : ∀ record ∈ [List.replicate 214 '0'], IsRecord .assetClassGated record := by
    intro record hrecord
    rw [List.mem_singleton.mp hrecord]
    exact ⟨.inl ⟨rfl, List.length_replicate⟩, fun _ => rfl⟩
  have hdefect : Defect .assetClassGated 4 (List.replicate 213 '0') (.truncated 218 217) := by
    have hlength : (List.replicate 213 '0').length = 213 := List.length_replicate
    have hcalls : CallsFor .assetClassGated (List.replicate 213 '0') 214 :=
      ⟨.inl ⟨rfl, rfl⟩, fun _ => rfl⟩
    have hend : Defect .assetClassGated 4 (List.replicate 213 '0')
        (.truncated (4 + 214) (4 + (List.replicate 213 '0').length)) :=
      .noEnd (by omega) hcalls (by omega)
    rwa [hlength] at hend
  obtain ⟨haccepts, _⟩ := decode_iff_of_allHex hlong .decimal .assetClassGated
  obtain ⟨_, hrefuses⟩ := decode_iff_of_allHex hshort .decimal .assetClassGated
  refine ⟨⟨hlong, hshort⟩, ⟨_, (haccepts _).mpr ⟨_, _, _, ⟨rfl, rfl, rfl, heach⟩, rfl, rfl⟩, rfl⟩,
    (hrefuses _).mpr ⟨_, ?_, rfl⟩⟩
  exact .badRecord rfl rfl rfl Nat.zero_lt_one (by simp) hdefect

end OracleIndexer.Feed.Wire
