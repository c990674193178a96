import OracleIndexer.Proofs.Word256
set_option autoImplicit false

/-!
# Exact arithmetic

An operation on words gives the exact number or is refused: a shift towards the high end keeps every
bit, one towards the low end drops the remainder, and a mask is looked at before it is laid over a
word.  A word is the union of its bits above and below any place, and of its two halves.  A refusal
tells the number that does not fit, and is another one where that number cannot be written.
-/

namespace OracleIndexer.Word256

open Text.Numeral (digitLimit)

theorem toNat_lt (w : Word256) : w.toNat < 2 ^ 256 := lt_iff.mp w.isLt

/-! ## Numbers out of range -/

/-- The refusal of a number, by the fault that tells of it as long as the number can be written. -/
def refusal (fault : Int → CodecFault) (n : Int) : Fault :=
  if n.natAbs < 10 ^ digitLimit then .codec (fault n) else .value .unwritable

/-- So is every fault raised that is worded with the number alone. -/
theorem raised_eq_refusal {fault : Int → CodecFault} {n : Int}
    (h : (fault n).isWritable = Text.Numeral.isWritable n) :
    Fault.raised (.codec (fault n)) = refusal fault n := by
  have hworded : (Fault.codec (fault n)).isWritable = Text.Numeral.isWritable n := h
  rw [Fault.raised, refusal, hworded]
  exact if_congr Text.Numeral.isWritable_iff rfl rfl

theorem refusal_of_lt {fault : Int → CodecFault} {n : Int} {k : Nat} (hk : k ≤ digitLimit)
    (h : n.natAbs < 10 ^ k) : refusal fault n = .codec (fault n) :=
  if_pos (Nat.lt_of_lt_of_le h (Nat.pow_le_pow_right (by decide) hk))

theorem refusal_of_le {fault : Int → CodecFault} {n : Int} (h : 10 ^ digitLimit ≤ n.natAbs) :
    refusal fault n = .value .unwritable := if_neg (Nat.not_lt.mpr h)

theorem ofInt_of_out {n : Int} (h : n < 0 ∨ 2 ^ 256 ≤ n) :
    ofInt n = .error (refusal .outOfRange n) := by
  have hrange : ¬ (0 ≤ n ∧ n < (1 <<< 256 : Nat)) := by
    rw [Nat.shiftLeft_eq, Nat.one_mul]
    omega
  rw [ofInt, inRange, dif_neg hrange, CodecFault.raise, Outcome.mapError_error,
    raised_eq_refusal rfl]

theorem exists_ofInt_iff {n : Int} : (∃ w, ofInt n = .ok w) ↔ 0 ≤ n ∧ n < 2 ^ 256 := by
  constructor
  · rintro ⟨w, hw⟩
    have hlt := w.toNat_lt
    rw [ofInt_eq_ok_iff] at hw
    omega
  · rintro ⟨hnonneg, hlt⟩
    refine ⟨⟨n.toNat, lt_iff.mpr (by omega)⟩, ofInt_eq_ok_iff.mpr ?_⟩
    exact (Int.toNat_of_nonneg hnonneg).symm

/-! ## Shifts -/

theorem shiftRight_natCast (w : Word256) (places : Nat) :
    w.shiftRight places = ofInt ((w.toNat / 2 ^ places : Nat) : Int) := by
  rw [← Nat.shiftRight_eq_div_pow]
  rfl

theorem shiftLeft_of_neg (w : Word256) {n : Int} (h : n < 0) :
    w.shiftLeft n = .error (.codec .negativeShift) := by
  obtain ⟨k, rfl⟩ := Int.eq_negSucc_of_lt_zero h
  rfl

theorem shiftRight_of_neg (w : Word256) {n : Int} (h : n < 0) :
    w.shiftRight n = .error (.codec .negativeShift) := by
  obtain ⟨k, rfl⟩ := Int.eq_negSucc_of_lt_zero h
  rfl

/-- A shift towards the high end is a product. -/
theorem shiftLeft_eq_ok_iff {v w : Word256} {n : Int} :
    v.shiftLeft n = .ok w ↔ 0 ≤ n ∧ w.toNat = v.toNat * 2 ^ n.toNat := by
  by_cases hn : 0 ≤ n
  · obtain ⟨places, rfl⟩ := Int.eq_ofNat_of_zero_le hn
    rw [Int.toNat_natCast]
    constructor
    · intro h
      rw [shiftLeft_natCast] at h
      split at h
      · contradiction
      · exact ⟨hn, (Int.natCast_inj.mp (ofInt_eq_ok_iff.mp h)).symm⟩
    · rintro ⟨_, hw⟩
      have hlt : v.toNat * 2 ^ places < 2 ^ 256 := hw ▸ w.toNat_lt
      exact (shiftLeft_eq_ok hlt).trans (congrArg Except.ok (ext_toNat hw.symm))
  · rw [shiftLeft_of_neg v (by omega)]
    simp [hn]

/-- A shift towards the low end is a quotient, which is always in range. -/
theorem shiftRight_eq_ok_iff {v w : Word256} {n : Int} :
    v.shiftRight n = .ok w ↔ 0 ≤ n ∧ w.toNat = v.toNat / 2 ^ n.toNat := by
  by_cases hn : 0 ≤ n
  · obtain ⟨places, rfl⟩ := Int.eq_ofNat_of_zero_le hn
    rw [shiftRight_natCast, ofInt_eq_ok_iff, Int.toNat_natCast, Int.natCast_inj]
    exact ⟨fun h => ⟨hn, h.symm⟩, fun h => h.2.symm⟩
  · rw [shiftRight_of_neg v (by omega)]
    simp [hn]

theorem exists_shiftLeft_iff {v : Word256} {n : Int} :
    (∃ w, v.shiftLeft n = .ok w) ↔ 0 ≤ n ∧ v.toNat * 2 ^ n.toNat < 2 ^ 256 := by
  simp only [shiftLeft_eq_ok_iff]
  constructor
  · rintro ⟨w, hn, hw⟩
    exact ⟨hn, hw ▸ w.toNat_lt⟩
  · rintro ⟨hn, hlt⟩
    exact ⟨⟨_, lt_iff.mpr hlt⟩, hn, rfl⟩

/-- A number with room at a place is a word, and so is the number moved there. -/
theorem exists_shifted (n places : Nat) (h : n * 2 ^ places < 2 ^ 256) :
    ∃ w v : Word256, ofInt (n : Int) = .ok w ∧ w.shiftLeft places = .ok v := by
  have hn : n < 2 ^ 256 := Nat.lt_of_le_of_lt (Nat.le_mul_of_pos_right n (Nat.two_pow_pos _)) h
  exact ⟨_, _, ofInt_natCast (lt_iff.mpr hn), shiftLeft_eq_ok h⟩

theorem exists_shiftRight {v : Word256} {n : Int} (hn : 0 ≤ n) :
    ∃ w, v.shiftRight n = .ok w ∧ w.toNat = v.toNat / 2 ^ n.toNat := by
  have hlt : v.toNat / 2 ^ n.toNat < 2 ^ 256 :=
    Nat.lt_of_le_of_lt (Nat.div_le_self _ _) v.toNat_lt
  exact ⟨⟨_, lt_iff.mpr hlt⟩, shiftRight_eq_ok_iff.mpr ⟨hn, rfl⟩, rfl⟩

theorem shiftLeft_of_le {v : Word256} {n : Int} (hn : 0 ≤ n)
    (h : 2 ^ 256 ≤ v.toNat * 2 ^ n.toNat) :
    v.shiftLeft n = .error (if n.toNat < storagePlaces then
      refusal .outOfRange ((v.toNat * 2 ^ n.toNat : Nat) : Int) else .tooLarge) := by
  obtain ⟨places, rfl⟩ := Int.eq_ofNat_of_zero_le hn
  have hnonzero : v.toNat ≠ 0 := by
    intro hzero
    rw [hzero, Nat.zero_mul] at h
    omega
  rw [shiftLeft_natCast, Int.toNat_natCast]
  by_cases hplaces : places < storagePlaces
  · rw [if_neg (by omega), if_pos hplaces]
    exact ofInt_of_out (.inr (by exact_mod_cast h))
  · rw [if_pos ⟨Nat.not_lt.mp hplaces, hnonzero⟩, if_neg hplaces]

/-- The refusal of a shift cannot tell a power of two from this place on. -/
theorem shiftLeft_one_of_le {places : Nat} (h : 14340 ≤ places) (hstored : places < storagePlaces) :
    shiftLeft ⟨1, by decide⟩ places = .error (.value .unwritable) := by
  have hpow : 10 ^ digitLimit ≤ 1 * 2 ^ places :=
    (Text.Numeral.pow_digitLimit_le h).trans (Nat.one_mul _).ge
  have hwide : 2 ^ 256 ≤ 1 * 2 ^ places := by
    rw [Nat.one_mul]
    exact Nat.pow_le_pow_right (by decide) (by omega)
  rw [shiftLeft_of_le (Int.natCast_nonneg places) hwide, Int.toNat_natCast, if_pos hstored,
    refusal_of_le (by exact_mod_cast hpow)]

/-- Shifting back undoes a shift towards the high end, which loses no bit. -/
theorem shiftRight_of_shiftLeft {v w : Word256} {n : Int} (h : v.shiftLeft n = .ok w) :
    w.shiftRight n = .ok v := by
  obtain ⟨hn, hw⟩ := shiftLeft_eq_ok_iff.mp h
  refine shiftRight_eq_ok_iff.mpr ⟨hn, ?_⟩
  rw [hw, Nat.mul_div_cancel _ (Nat.two_pow_pos _)]

/-! ## Masks and unions -/

theorem and_of_out (v : Word256) {m : Int} (h : m < 0 ∨ 2 ^ 256 ≤ m) :
    v.and m = .error (refusal .outOfRange m) := by
  rw [Word256.and, ofInt_of_out h, Outcome.bind_error]

theorem or_of_out (v : Word256) {m : Int} (h : m < 0 ∨ 2 ^ 256 ≤ m) :
    v.or m = .error (refusal .outOfRange m) := by
  rw [Word256.or, ofInt_of_out h, Outcome.bind_error]

/-- An operation that looks at its operand first takes every operand in range. -/
theorem bind_ofInt_eq_ok_iff {m : Int} {f : Nat → Nat} {w : Word256} :
    ((ofInt m).bind fun other => ofInt ((f other.toNat : Nat) : Int)) = .ok w ↔
      0 ≤ m ∧ m < 2 ^ 256 ∧ w.toNat = f m.toNat := by
  by_cases hm : 0 ≤ m ∧ m < 2 ^ 256
  · obtain ⟨other, hother⟩ := exists_ofInt_iff.mpr hm
    obtain rfl := ofInt_eq_ok_iff.mp hother
    rw [hother, Outcome.bind_ok, ofInt_eq_ok_iff, Int.toNat_natCast, Int.natCast_inj]
    exact ⟨fun h => ⟨hm.1, hm.2, h.symm⟩, fun h => h.2.2.symm⟩
  · rw [ofInt_of_out (by omega), Outcome.bind_error]
    simp only [reduceCtorEq, false_iff]
    exact fun h => hm ⟨h.1, h.2.1⟩

theorem and_eq_ok_iff {v w : Word256} {m : Int} :
    v.and m = .ok w ↔ 0 ≤ m ∧ m < 2 ^ 256 ∧ w.toNat = v.toNat &&& m.toNat :=
  bind_ofInt_eq_ok_iff

theorem or_eq_ok_iff {v w : Word256} {m : Int} :
    v.or m = .ok w ↔ 0 ≤ m ∧ m < 2 ^ 256 ∧ w.toNat = v.toNat ||| m.toNat :=
  bind_ofInt_eq_ok_iff

/-- If its result is always in range, it is refused for its operand alone. -/
theorem exists_bind_ofInt_iff {m : Int} {f : Nat → Nat} (hf : ∀ n < 2 ^ 256, f n < 2 ^ 256) :
    (∃ w, ((ofInt m).bind fun other => ofInt ((f other.toNat : Nat) : Int)) = .ok w) ↔
      0 ≤ m ∧ m < 2 ^ 256 := by
  simp only [bind_ofInt_eq_ok_iff]
  constructor
  · rintro ⟨w, hnonneg, hlt, _⟩
    exact ⟨hnonneg, hlt⟩
  · rintro ⟨hnonneg, hlt⟩
    exact ⟨⟨_, lt_iff.mpr (hf m.toNat (by omega))⟩, hnonneg, hlt, rfl⟩

theorem exists_and_iff {v : Word256} {m : Int} :
    (∃ w, v.and m = .ok w) ↔ 0 ≤ m ∧ m < 2 ^ 256 :=
  exists_bind_ofInt_iff fun _ => Nat.and_lt_two_pow _

theorem exists_or_iff {v : Word256} {m : Int} :
    (∃ w, v.or m = .ok w) ↔ 0 ≤ m ∧ m < 2 ^ 256 :=
  exists_bind_ofInt_iff fun _ => Nat.or_lt_two_pow v.toNat_lt

/-- The union of two words is a word. -/
theorem or_word (v w : Word256) : ∃ u : Word256, v.or w.toNat = .ok u := by
  have hw := w.toNat_lt
  exact exists_or_iff.mpr (by omega)

/-! ## Refusals -/

/-- The refusal of a number that no word can hold, which it tells. -/
def IsOutOfRange (fault : Fault) : Prop :=
  ∃ n : Int, (n < 0 ∨ 2 ^ 256 ≤ n) ∧ fault = .codec (.outOfRange n)

theorem out_of_ofInt {n : Int} {fault : Fault} (h : ofInt n = .error fault) :
    n < 0 ∨ 2 ^ 256 ≤ n := by
  by_contra hin
  obtain ⟨w, hw⟩ := exists_ofInt_iff.mpr (show 0 ≤ n ∧ n < 2 ^ 256 by omega)
  rw [hw] at h
  contradiction

theorem isOutOfRange_iff_of_ofInt {n : Int} {fault : Fault} (h : ofInt n = .error fault) :
    IsOutOfRange fault ↔ n.natAbs < 10 ^ digitLimit := by
  have hout := out_of_ofInt h
  rw [ofInt_of_out hout] at h
  obtain rfl := Except.error.inj h
  constructor
  · rintro ⟨m, _, hm⟩
    by_contra hlong
    rw [refusal_of_le (Nat.not_lt.mp hlong)] at hm
    contradiction
  · intro hshort
    exact ⟨n, hout, if_pos hshort⟩

/-- The refusal of a shift by no more places than a word has tells the number. -/
theorem isOutOfRange_of_shiftLeft {w : Word256} {places : Nat} {fault : Fault}
    (hplaces : places ≤ 256) (h : w.shiftLeft places = .error fault) : IsOutOfRange fault := by
  have hstored : places < storagePlaces := Nat.lt_of_le_of_lt hplaces (by decide)
  have hout : 2 ^ 256 ≤ w.toNat * 2 ^ places := by
    by_contra hin
    rw [shiftLeft_eq_ok (Nat.not_le.mp hin)] at h
    contradiction
  have hsmall : w.toNat * 2 ^ places < 10 ^ 160 := by
    calc w.toNat * 2 ^ places
      _ < 2 ^ 256 * 2 ^ 256 :=
        Nat.mul_lt_mul_of_lt_of_le w.toNat_lt (Nat.pow_le_pow_right (by decide) hplaces)
          (Nat.two_pow_pos _)
      _ ≤ 10 ^ 80 * 10 ^ 80 := Nat.mul_le_mul (by decide) (by decide)
      _ = 10 ^ 160 := (Nat.pow_add 10 80 80).symm
  rw [shiftLeft_of_le (Int.natCast_nonneg places) hout, Int.toNat_natCast, if_pos hstored,
    refusal_of_lt (by decide : 160 ≤ digitLimit) (by exact_mod_cast hsmall)] at h
  exact ⟨_, .inr (by exact_mod_cast hout), (Except.error.inj h).symm⟩

/-! ## Parts of a word -/

/-- The bits of a word from a place on, put back there, and those below the place. -/
def rejoined (v : Word256) (places : Nat) : Outcome Word256 := do
  let upper ← (← v.shiftRight places).shiftLeft places
  let lower ← v.and ((2 ^ places - 1 : Nat) : Int)
  upper.or lower.toNat

theorem rejoined_eq_ok (v : Word256) {places : Nat} (h : places ≤ 256) :
    v.rejoined places = .ok v := by
  have hv := v.toNat_lt
  have hpow : 2 ^ places ≤ 2 ^ 256 := Nat.pow_le_pow_right (by decide) h
  have hsplit : v.toNat / 2 ^ places * 2 ^ places + v.toNat % 2 ^ places = v.toNat :=
    Nat.div_add_mod' _ _
  obtain ⟨quotient, hquotient, hq⟩ := exists_shiftRight (v := v) (n := places) (by omega)
  rw [Int.toNat_natCast] at hq
  obtain ⟨upper, hupper⟩ : ∃ upper, quotient.shiftLeft places = .ok upper := by
    rw [exists_shiftLeft_iff, Int.toNat_natCast, hq]
    omega
  have hu := (shiftLeft_eq_ok_iff.mp hupper).2
  rw [Int.toNat_natCast, hq] at hu
  obtain ⟨lower, hlower⟩ : ∃ lower, v.and ((2 ^ places - 1 : Nat) : Int) = .ok lower :=
    exists_and_iff.mpr (by omega)
  have hl := (and_eq_ok_iff.mp hlower).2.2
  rw [Int.toNat_natCast, Nat.and_two_pow_sub_one_eq_mod] at hl
  have hrest : v.toNat % 2 ^ places < 2 ^ places := Nat.mod_lt _ (Nat.two_pow_pos _)
  rw [rejoined, hquotient, Outcome.ok_bind, hupper, Outcome.ok_bind, hlower, Outcome.ok_bind,
    or_eq_ok hu (by rw [hl]; exact hrest) (by rw [hl]; omega)]
  exact congrArg Except.ok (ext_toNat ((congrArg (_ + ·) hl).trans hsplit))

/-- Two whole numbers as halves are looked at as they stand. -/
theorem compose_whole (low high : Int) :
    compose (.document (.int low)) (.document (.int high)) = ofHalves low high := rfl

theorem exists_ofHalves_iff {low high : Int} :
    (∃ w, ofHalves low high = .ok w) ↔
      (0 ≤ low ∧ low < 2 ^ 128) ∧ (0 ≤ high ∧ high < 2 ^ 128) := by
  simp only [ofHalves_eq_ok_iff]
  constructor
  · rintro ⟨_, lo, hi, rfl, rfl, hlo, hhi, _⟩
    omega
  · rintro ⟨⟨hlow, hlo⟩, ⟨hhigh, hhi⟩⟩
    have hsum : low.toNat + 2 ^ 128 * high.toNat < 2 ^ 256 := by omega
    exact ⟨⟨_, lt_iff.mpr hsum⟩, low.toNat, high.toNat, by omega, by omega, by omega, by omega, rfl⟩

theorem ofHalves_of_low {low : Int} (h : low < 0 ∨ 2 ^ 128 ≤ low) (high : Int) :
    ofHalves low high = .error (refusal (.halfOutOfRange .low) low) := by
  rw [ofHalves, if_pos (by rw [Nat.shiftLeft_eq, Nat.one_mul]; exact_mod_cast h),
    raised_eq_refusal rfl]

theorem ofHalves_of_high {low high : Int} (hlow : 0 ≤ low ∧ low < 2 ^ 128)
    (h : high < 0 ∨ 2 ^ 128 ≤ high) :
    ofHalves low high = .error (refusal (.halfOutOfRange .high) high) := by
  rw [ofHalves, if_neg (by rw [Nat.shiftLeft_eq, Nat.one_mul]; omega),
    if_pos (by rw [Nat.shiftLeft_eq, Nat.one_mul]; exact_mod_cast h), raised_eq_refusal rfl]

theorem halves_eq (w : Word256) : w.halves = (w.toNat % 2 ^ 128, w.toNat / 2 ^ 128) := by
  rw [halves, Nat.shiftLeft_eq, Nat.one_mul]

theorem halves_of_ofHalves {low high : Int} {w : Word256} (h : ofHalves low high = .ok w) :
    (w.halves.1 : Int) = low ∧ (w.halves.2 : Int) = high := by
  obtain ⟨lo, hi, rfl, rfl, hlo, hhi, hw⟩ := ofHalves_eq_ok_iff.mp h
  rw [halves_eq, Int.natCast_inj, Int.natCast_inj]
  omega

theorem ofHalves_halves (w : Word256) : ofHalves w.halves.1 w.halves.2 = .ok w := by
  have hw := w.toNat_lt
  rw [ofHalves_eq_ok_iff, halves_eq]
  exact ⟨_, _, rfl, rfl, Nat.mod_lt _ (Nat.two_pow_pos _), by omega, (Nat.mod_add_div _ _).symm⟩

/-! ## Exact or refused -/

/-- A shift by any count gives the exact number, or is refused for the count or for the number,
which must be stored to be told. -/
structure ShiftsExactly (v : Word256) (n : Int) : Prop where
  left_iff : (∃ w, v.shiftLeft n = .ok w) ↔ 0 ≤ n ∧ v.toNat * 2 ^ n.toNat < 2 ^ 256
  left : ∀ w, v.shiftLeft n = .ok w → w.toNat = v.toNat * 2 ^ n.toNat ∧ w.shiftRight n = .ok v
  left_out : 0 ≤ n → 2 ^ 256 ≤ v.toNat * 2 ^ n.toNat →
    v.shiftLeft n = .error (if n.toNat < storagePlaces then
      refusal .outOfRange ((v.toNat * 2 ^ n.toNat : Nat) : Int) else .tooLarge)
  right : 0 ≤ n → ∃ w, v.shiftRight n = .ok w ∧ w.toNat = v.toNat / 2 ^ n.toNat
  negative : n < 0 →
    v.shiftLeft n = .error (.codec .negativeShift) ∧
      v.shiftRight n = .error (.codec .negativeShift)

/-- A mask is refused exactly if it is out of range. -/
structure MasksExactly (v : Word256) (m : Int) : Prop where
  and_iff : (∃ w, v.and m = .ok w) ↔ 0 ≤ m ∧ m < 2 ^ 256
  or_iff : (∃ w, v.or m = .ok w) ↔ 0 ≤ m ∧ m < 2 ^ 256
  and : ∀ w, v.and m = .ok w → w.toNat = v.toNat &&& m.toNat
  or : ∀ w, v.or m = .ok w → w.toNat = v.toNat ||| m.toNat
  out : m < 0 ∨ 2 ^ 256 ≤ m →
    v.and m = .error (refusal .outOfRange m) ∧ v.or m = .error (refusal .outOfRange m)

/-- Two numbers are taken as halves exactly if both are in the range of a half, and are then the
halves of the word; the lower one is looked at first. -/
structure ComposesExactly (low high : Int) : Prop where
  iff : (∃ w, compose (.document (.int low)) (.document (.int high)) = .ok w) ↔
    (0 ≤ low ∧ low < 2 ^ 128) ∧ (0 ≤ high ∧ high < 2 ^ 128)
  halves : ∀ w, compose (.document (.int low)) (.document (.int high)) = .ok w →
    (w.toNat : Int) = low + 2 ^ 128 * high ∧
      (w.halves.1 : Int) = low ∧ (w.halves.2 : Int) = high
  low_out : low < 0 ∨ 2 ^ 128 ≤ low →
    compose (.document (.int low)) (.document (.int high))
      = .error (refusal (.halfOutOfRange .low) low)
  high_out : 0 ≤ low ∧ low < 2 ^ 128 → high < 0 ∨ 2 ^ 128 ≤ high →
    compose (.document (.int low)) (.document (.int high))
      = .error (refusal (.halfOutOfRange .high) high)

theorem shiftsExactly (v : Word256) (n : Int) : ShiftsExactly v n where
  left_iff := exists_shiftLeft_iff
  left _ h := ⟨(shiftLeft_eq_ok_iff.mp h).2, shiftRight_of_shiftLeft h⟩
  left_out := shiftLeft_of_le
  right := exists_shiftRight
  negative h := ⟨shiftLeft_of_neg v h, shiftRight_of_neg v h⟩

theorem masksExactly (v : Word256) (m : Int) : MasksExactly v m where
  and_iff := exists_and_iff
  or_iff := exists_or_iff
  and _ h := (and_eq_ok_iff.mp h).2.2
  or _ h := (or_eq_ok_iff.mp h).2.2
  out h := ⟨and_of_out v h, or_of_out v h⟩

theorem composesExactly (low high : Int) : ComposesExactly low high where
  iff := exists_ofHalves_iff
  halves w h := by
    obtain ⟨lo, hi, hlow, hhigh, _, _, hw⟩ := ofHalves_eq_ok_iff.mp h
    refine ⟨?_, halves_of_ofHalves h⟩
    rw [hw, hlow, hhigh]
    push_cast
    rfl
  low_out h := ofHalves_of_low h high
  high_out hlow h := ofHalves_of_high hlow h

/-- Every operation on words is exact or refused.  A word is the union of its bits above and below
any place, and is composed again from its halves. -/
theorem arithmetic_exact (v : Word256) (n m low high : Int) :
    ShiftsExactly v n ∧ MasksExactly v m ∧ ComposesExactly low high ∧
      (∀ places ≤ 256, v.rejoined places = .ok v) ∧
      compose (.document (.int v.halves.1)) (.document (.int v.halves.2)) = .ok v ∧
      v.toNat < 2 ^ 256 := by
  refine ⟨shiftsExactly v n, masksExactly v m, composesExactly low high, ?_, ?_, v.toNat_lt⟩
  · intro places h
    exact rejoined_eq_ok v h
  · rw [compose_whole]
    exact ofHalves_halves v

/-- Three may be shifted by 254 places and no further, is masked by no negative number, and is the
union of its two bits; a lower half of `2 ^ 128` is refused. -/
theorem arithmetic_exact_three :
    let three : Word256 := ⟨3, by decide⟩
    (∃ w, three.shiftLeft 254 = .ok w ∧ w.toNat = 3 * 2 ^ 254 ∧ w.shiftRight 254 = .ok three) ∧
    three.shiftLeft 255 = .error (.codec (.outOfRange ((3 * 2 ^ 255 : Nat) : Int))) ∧
    three.and (-1) = .error (.codec (.outOfRange (-1))) ∧
    compose (.document (.int (2 ^ 128))) (.document (.int (-1)))
      = .error (.codec (.halfOutOfRange .low (2 ^ 128))) ∧
    three.rejoined 1 = .ok three := by
  intro three
  obtain ⟨shifts, masks, composes, rejoins, _⟩ := arithmetic_exact three 254 (-1) (2 ^ 128) (-1)
  obtain ⟨wide, _⟩ := arithmetic_exact three 255 (-1) (2 ^ 128) (-1)
  obtain ⟨w, hw⟩ := shifts.left_iff.mpr (by decide)
  refine ⟨⟨w, hw, shifts.left w hw⟩, ?_, ?_, ?_, ?_⟩
  · rw [wide.left_out (by decide) (by decide), if_pos (by decide)]
    exact congrArg _ (refusal_of_lt (by decide : 80 ≤ digitLimit) (by decide))
  · rw [(masks.out (by decide)).1]
    exact congrArg _ (refusal_of_lt (by decide : 1 ≤ digitLimit) (by decide))
  · rw [composes.low_out (by decide)]
    exact congrArg _ (refusal_of_lt (by decide : 40 ≤ digitLimit) (by decide))
  · exact rejoins 1 (by decide)

/-- One is shifted by too many places for its refusal to tell the number. -/
theorem not_told_of_wide_shift :
    let one : Word256 := ⟨1, by decide⟩
    one.shiftLeft 15000 = .error (.value .unwritable) ∧
      ¬ ∃ fault, one.shiftLeft 15000 = .error (.codec fault) := by
  intro one
  have hrefused : one.shiftLeft 15000 = .error (.value .unwritable) :=
    shiftLeft_one_of_le (by decide : 14340 ≤ 15000) (by decide)
  refine ⟨hrefused, ?_⟩
  rintro ⟨fault, hfault⟩
  rw [hrefused] at hfault
  exact Fault.noConfusion (Except.error.inj hfault)

end OracleIndexer.Word256
