import OracleIndexer.Proofs.Feed.Packing
import OracleIndexer.Proofs.Word256.Arithmetic
set_option autoImplicit false

/-!
# Words and their fields

Words correspond to the feed ids whose fields stay within their widths: a word is packed again from
its fields, and such fields come back from their word.  The packing itself looks at no width.  It
takes each field that does not leave the word, and lays the bits of a field beyond its width over
the fields above, so that other fields come back.
-/

namespace OracleIndexer

open Text (AllHex slice)
open Text.HexWord (value?)
open Text.Numeral (digitLimit)

namespace Feed.Id

/-- A number that a field of so many bits can hold. -/
def InBits (bits : Nat) (field : Int) : Prop := 0 ≤ field ∧ field < 2 ^ bits

instance (bits : Nat) (field : Int) : Decidable (InBits bits field) :=
  inferInstanceAs (Decidable (_ ∧ _))

theorem inBits_iff {bits : Nat} {field : Int} :
    InBits bits field ↔ ∃ n : Nat, field = n ∧ n < 2 ^ bits := by
  constructor
  · rintro ⟨hnonneg, hlt⟩
    lift field to Nat using hnonneg
    exact ⟨field, rfl, by exact_mod_cast hlt⟩
  · rintro ⟨n, rfl, hlt⟩
    exact ⟨Int.natCast_nonneg n, by exact_mod_cast hlt⟩

/-- No field is negative, and each has at most so many bits. -/
structure HasWidths (reserved assetClass feedType pairId : Nat) (id : Id) : Prop where
  reserved : InBits reserved id.reserved
  assetClass : InBits assetClass id.assetClass
  feedType : InBits feedType id.feedType
  pairId : InBits pairId id.pairId

/-- Each field lies within its own bits. -/
abbrev Fits (id : Id) : Prop := HasWidths 8 16 16 216 id

/-- Each field, moved to its place, lies within the word. -/
abbrev Packable (id : Id) : Prop := HasWidths 8 24 40 256 id

/-- The fields as numbers that may be moved. -/
theorem hasWidths_iff {r a f p : Nat} {id : Id} :
    HasWidths r a f p id ↔
      ∃ reserved assetClass feedType pairId : Nat, id = ⟨assetClass, feedType, pairId, reserved⟩ ∧
        reserved < 2 ^ r ∧ assetClass < 2 ^ a ∧ feedType < 2 ^ f ∧ pairId < 2 ^ p := by
  constructor
  · rintro ⟨hreserved, hclass, htype, hpair⟩
    obtain ⟨assetClass, feedType, pairId, reserved⟩ := id
    obtain ⟨reserved, rfl, hr⟩ := inBits_iff.mp hreserved
    obtain ⟨assetClass, rfl, ha⟩ := inBits_iff.mp hclass
    obtain ⟨feedType, rfl, hf⟩ := inBits_iff.mp htype
    obtain ⟨pairId, rfl, hp⟩ := inBits_iff.mp hpair
    exact ⟨reserved, assetClass, feedType, pairId, rfl, hr, ha, hf, hp⟩
  · rintro ⟨reserved, assetClass, feedType, pairId, rfl, hr, ha, hf, hp⟩
    exact ⟨inBits_iff.mpr ⟨_, rfl, hr⟩, inBits_iff.mpr ⟨_, rfl, ha⟩, inBits_iff.mpr ⟨_, rfl, hf⟩,
      inBits_iff.mpr ⟨_, rfl, hp⟩⟩

/-! ## Fields within their widths -/

theorem fits_ofWord (w : Word256) : (ofWord w).Fits := by
  obtain ⟨reserved, assetClass, feedType, pairId, hreserved, hclass, htype, hpair, hw⟩ :=
    exists_fields w
  rw [ofWord_eq hclass htype hpair hw, Fits, hasWidths_iff]
  exact ⟨_, _, _, _, rfl, hreserved, hclass, htype, hpair⟩

theorem exists_word_of_fits {id : Id} (h : id.Fits) :
    ∃ w, id.toWord = .ok w ∧ ofWord w = id := by
  obtain ⟨reserved, assetClass, feedType, pairId, rfl, hreserved, hclass, htype, hpair⟩ :=
    hasWidths_iff.mp h
  obtain ⟨w, hpacked, hw⟩ := toWord_of_lt hreserved hclass htype hpair
  exact ⟨w, hpacked, ofWord_eq hclass htype hpair hw⟩

/-- Words and feed ids within their widths correspond, and the fields of sixty-four digits are the
values of the slices in which they are written. -/
theorem fields_correspond :
    (∀ w : Word256, (ofWord w).Fits ∧ (ofWord w).toWord = .ok w) ∧
    (∀ id : Id, id.Fits → ∃ w, id.toWord = .ok w ∧ ofWord w = id) ∧
    ∀ digits : List Char, digits.length = width → AllHex digits →
      ∃ reserved assetClass feedType pairId : Nat,
        value? (slice 0 2 digits) = some reserved ∧
        value? (slice 2 4 digits) = some assetClass ∧
        value? (slice 6 4 digits) = some feedType ∧
        value? (slice 10 54 digits) = some pairId ∧
        ofHex (String.ofList digits) = .ok ⟨assetClass, feedType, pairId, reserved⟩ := by
  refine ⟨?_, ?_, ?_⟩
  · intro w
    exact ⟨fits_ofWord w, toWord_ofWord w⟩
  · intro id h
    exact exists_word_of_fits h
  · intro digits hlength h
    exact ofHex_of_digits hlength h

/-- The largest pair id under an asset class and a feed type that fill their bits with letters. -/
theorem fields_correspond_letters :
    let id : Id := ⟨0xBEEF, 0xCAFE, 2 ^ 216 - 1, 0⟩
    (∃ w, id.toWord = .ok w ∧ ofWord w = id) ∧
    ofHex (String.ofList ("00beefCAFE".toList ++ List.replicate 54 'f')) = .ok id := by
  intro id
  obtain ⟨_, hfields, hdigits⟩ := fields_correspond
  refine ⟨hfields id (by constructor <;> decide), ?_⟩
  obtain ⟨reserved, assetClass, feedType, pairId, hreserved, hclass, htype, hpair, hid⟩ :=
    hdigits ("00beefCAFE".toList ++ List.replicate 54 'f') (by decide)
      (Text.allHex_iff_all.mpr (by decide))
  obtain rfl : 0 = reserved := Option.some.inj (Eq.trans (by decide) hreserved)
  obtain rfl : 0xBEEF = assetClass := Option.some.inj (Eq.trans (by decide) hclass)
  obtain rfl : 0xCAFE = feedType := Option.some.inj (Eq.trans (by decide) htype)
  obtain rfl : 2 ^ 216 - 1 = pairId := Option.some.inj (Eq.trans (by decide) hpair)
  exact hid

/-! ## Fields of any size -/

/-- A packed id holds its fields at their places, one laid over the other. -/
theorem toWord_eq_ok {id : Id} {w : Word256} (h : id.toWord = .ok w) :
    ∃ reserved assetClass feedType pairId : Nat, id = ⟨assetClass, feedType, pairId, reserved⟩ ∧
      reserved < 2 ^ 8 ∧ assetClass < 2 ^ 24 ∧ feedType < 2 ^ 40 ∧ pairId < 2 ^ 256 ∧
      w.toNat = reserved <<< 248 ||| assetClass <<< 232 ||| feedType <<< 216 ||| pairId := by
  simp only [toWord, join, Outcome.bind_eq_ok_iff, Word256.ofInt_eq_ok_iff,
    Word256.shiftLeft_eq_ok_iff, Word256.or_eq_ok_iff, Int.toNat_natCast] at h
  obtain ⟨r, hr, top, ⟨_, htop⟩, a, ha, second, ⟨_, hsecond⟩, upper, ⟨_, _, hupper⟩, f, hf, third,
    ⟨_, hthird⟩, middle, ⟨_, _, hmiddle⟩, p, hp, _, _, hw⟩ := h
  have htopLt := top.toNat_lt
  have hsecondLt := second.toNat_lt
  have hthirdLt := third.toNat_lt
  refine ⟨r.toNat, a.toNat, f.toNat, p.toNat, ?_, ?_, ?_, ?_, p.toNat_lt, ?_⟩
  · rw [← hr, ← ha, ← hf, ← hp]
  · simp only [reservedShift] at htop
    omega
  · simp only [assetClassShift] at hsecond
    omega
  · simp only [feedTypeShift] at hthird
    omega
  · rw [hw, hmiddle, hupper, htop, hsecond, hthird, Nat.shiftLeft_eq, Nat.shiftLeft_eq,
      Nat.shiftLeft_eq]
    rfl

/-- The fields in the order of their places, each with the bits that the word has from there on. -/
def placed (id : Id) : List (Nat × Int) :=
  [(8, id.reserved), (24, id.assetClass), (40, id.feedType), (256, id.pairId)]

/-- The first field that leaves the word. -/
def leaving? (id : Id) : Option Int :=
  (id.placed.find? fun (bits, field) => ¬ InBits bits field).map (·.2)

theorem packable_iff {id : Id} : id.Packable ↔ id.leaving? = none := by
  simp only [leaving?, placed, Option.map_eq_none_iff, List.find?_eq_none, List.forall_mem_cons,
    decide_not, Bool.not_eq_true', decide_eq_false_iff_not, not_not]
  constructor
  · rintro ⟨hreserved, hclass, htype, hpair⟩
    exact ⟨hreserved, hclass, htype, hpair, by simp⟩
  · rintro ⟨hreserved, hclass, htype, hpair, _⟩
    exact ⟨hreserved, hclass, htype, hpair⟩

/-- A number with a word, which stays within it at its place, is in the bits from there on. -/
theorem inBits_of_shiftLeft {n : Int} {w v : Word256} {bits places : Nat}
    (hplace : bits + places = 256) (hw : Word256.ofInt n = .ok w)
    (hv : w.shiftLeft places = .ok v) : InBits bits n := by
  obtain ⟨_, hvalue⟩ := Word256.shiftLeft_eq_ok_iff.mp hv
  rw [Int.toNat_natCast] at hvalue
  have hlt : w.toNat * 2 ^ places < 2 ^ bits * 2 ^ places := by
    rw [← Nat.pow_add, hplace, ← hvalue]
    exact v.toNat_lt
  exact inBits_iff.mpr ⟨w.toNat, Word256.ofInt_eq_ok_iff.mp hw, Nat.lt_of_mul_lt_mul_right hlt⟩

/-- A field for which the word has not enough bits, and a fault that tells of it exactly if it can
be written. -/
structure Refused (bits : Nat) (field : Int) (fault : Fault) : Prop where
  leaves : ¬ InBits bits field
  told_iff : Word256.IsOutOfRange fault ↔ field.natAbs < 10 ^ digitLimit

theorem refused_of_ofInt {bits : Nat} {n : Int} {fault : Fault} (hbits : bits ≤ 256)
    (h : Word256.ofInt n = .error fault) : Refused bits n fault where
  leaves hin := by
    have hpow : (2 : Int) ^ bits ≤ 2 ^ 256 := by
      exact_mod_cast Nat.pow_le_pow_right (by decide : 0 < 2) hbits
    have hout := Word256.out_of_ofInt h
    have hnonneg := hin.1
    have hlt := hin.2
    omega
  told_iff := Word256.isOutOfRange_iff_of_ofInt h

theorem refused_of_shiftLeft {bits places : Nat} {n : Int} {w : Word256} {fault : Fault}
    (hplace : bits + places = 256) (hw : Word256.ofInt n = .ok w)
    (h : w.shiftLeft places = .error fault) : Refused bits n fault where
  leaves hin := by
    obtain ⟨m, rfl, hm⟩ := inBits_iff.mp hin
    have hvalue : m = w.toNat := Int.natCast_inj.mp (Word256.ofInt_eq_ok_iff.mp hw)
    have hlt : w.toNat * 2 ^ places < 2 ^ 256 := by
      rw [← hplace, Nat.pow_add, ← hvalue]
      exact Nat.mul_lt_mul_of_pos_right hm (Nat.two_pow_pos _)
    rw [Word256.shiftLeft_eq_ok hlt] at h
    cases h
  told_iff := by
    obtain rfl := Word256.ofInt_eq_ok_iff.mp hw
    have hsmall : w.toNat < 10 ^ 80 := Nat.lt_of_lt_of_le w.toNat_lt (by decide)
    have htold := Text.Numeral.isWritable_of_lt (n := w.toNat) (by decide : 80 ≤ digitLimit) hsmall
    exact iff_of_true (Word256.isOutOfRange_of_shiftLeft (by omega) h)
      (Text.Numeral.isWritable_iff.mp htold)

/-- A packing is refused for the first field that leaves the word. -/
theorem refused_of_toWord {id : Id} {fault : Fault} (h : id.toWord = .error fault) :
    ∃ field, id.leaving? = some field ∧
      (Word256.IsOutOfRange fault ↔ field.natAbs < 10 ^ digitLimit) := by
  have hor : ∀ v w : Word256, v.or w.toNat ≠ .error fault := by
    intro v w herror
    obtain ⟨u, hu⟩ := v.or_word w
    rw [hu] at herror
    contradiction
  -- the fields of the steps before the one that is refused are in their bits
  have hfirst : Refused 8 id.reserved fault ∨
      InBits 8 id.reserved ∧ (Refused 24 id.assetClass fault ∨
        InBits 24 id.assetClass ∧ (Refused 40 id.feedType fault ∨
          InBits 40 id.feedType ∧ Refused 256 id.pairId fault)) := by
    simp only [toWord, join, Outcome.bind_eq_error_iff] at h
    rcases h with h | ⟨_, hr, h | ⟨_, htop, h⟩⟩
    · exact .inl (refused_of_ofInt (by decide) h)
    · exact .inl (refused_of_shiftLeft rfl hr h)
    refine .inr ⟨inBits_of_shiftLeft rfl hr htop, ?_⟩
    rcases h with h | ⟨_, ha, h | ⟨_, hsecond, h | ⟨_, _, h⟩⟩⟩
    · exact .inl (refused_of_ofInt (by decide) h)
    · exact .inl (refused_of_shiftLeft rfl ha h)
    · exact absurd h (hor _ _)
    refine .inr ⟨inBits_of_shiftLeft rfl ha hsecond, ?_⟩
    rcases h with h | ⟨_, hf, h | ⟨_, hthird, h | ⟨_, _, h⟩⟩⟩
    · exact .inl (refused_of_ofInt (by decide) h)
    · exact .inl (refused_of_shiftLeft rfl hf h)
    · exact absurd h (hor _ _)
    refine .inr ⟨inBits_of_shiftLeft rfl hf hthird, ?_⟩
    rcases h with h | ⟨_, _, h⟩
    · exact refused_of_ofInt (by decide) h
    · exact absurd h (hor _ _)
  rcases hfirst with hr | ⟨hreserved, ha | ⟨hclass, hf | ⟨htype, hp⟩⟩⟩
  · exact ⟨id.reserved, by simp [leaving?, placed, hr.leaves], hr.told_iff⟩
  · exact ⟨id.assetClass, by simp [leaving?, placed, hreserved, ha.leaves], ha.told_iff⟩
  · exact ⟨id.feedType, by simp [leaving?, placed, hreserved, hclass, hf.leaves], hf.told_iff⟩
  · exact ⟨id.pairId, by simp [leaving?, placed, hreserved, hclass, htype, hp.leaves], hp.told_iff⟩

/-- A feed id is packed exactly if no field leaves the word. -/
theorem exists_toWord_iff {id : Id} : (∃ w, id.toWord = .ok w) ↔ id.Packable := by
  constructor
  · rintro ⟨w, hw⟩
    obtain ⟨reserved, assetClass, feedType, pairId, hid, hr, ha, hf, hp, _⟩ := toWord_eq_ok hw
    exact hasWidths_iff.mpr ⟨reserved, assetClass, feedType, pairId, hid, hr, ha, hf, hp⟩
  · intro h
    obtain ⟨reserved, assetClass, feedType, pairId, rfl, hreserved, hclass, htype, hpair⟩ :=
      hasWidths_iff.mp h
    -- each field is a word, also at its place, and unions of words are words
    obtain ⟨_, top, hr, htop⟩ := Word256.exists_shifted reserved reservedShift
      (by simp only [reservedShift]; omega)
    obtain ⟨_, second, ha, hsecond⟩ := Word256.exists_shifted assetClass assetClassShift
      (by simp only [assetClassShift]; omega)
    obtain ⟨_, third, hf, hthird⟩ := Word256.exists_shifted feedType feedTypeShift
      (by simp only [feedTypeShift]; omega)
    have hp := Word256.ofInt_natCast (n := pairId) (Word256.lt_iff.mpr hpair)
    obtain ⟨upper, hupper⟩ := top.or_word second
    obtain ⟨middle, hmiddle⟩ := upper.or_word third
    obtain ⟨all, hall⟩ := middle.or_word ⟨pairId, _⟩
    rw [toWord, hr, ha, hf, hp]
    exact ⟨all, join_eq_ok htop hsecond hupper hthird hmiddle hall⟩

/-- The fields that come back when the bits of each field beyond its width are laid over the fields
above. -/
def overlaid (id : Id) : Id where
  assetClass := ((id.assetClass.toNat ||| id.feedType.toNat >>> 16 ||| id.pairId.toNat >>> 232)
    % 2 ^ 16 : Nat)
  feedType := ((id.feedType.toNat ||| id.pairId.toNat >>> 216) % 2 ^ 16 : Nat)
  pairId := (id.pairId.toNat % 2 ^ 216 : Nat)
  reserved := (id.reserved.toNat ||| id.assetClass.toNat >>> 16 ||| id.feedType.toNat >>> 32
    ||| id.pairId.toNat >>> 248 : Nat)

theorem ofWord_eq_overlaid {id : Id} {w : Word256} (h : id.toWord = .ok w) :
    ofWord w = id.overlaid := by
  obtain ⟨reserved, assetClass, feedType, pairId, rfl, _, _, _, _, hw⟩ := toWord_eq_ok h
  have hmask : (0xFFFF : Nat) = 2 ^ 16 - 1 := by decide
  have hlow : (1 <<< 216 - 1 : Nat) = 2 ^ 216 - 1 := by decide
  simp only [ofWord, overlaid, assetClassShift, feedTypeShift, reservedShift, hmask, hlow, hw,
    Int.toNat_natCast, Id.mk.injEq, Int.natCast_inj]
  refine ⟨?_, ?_, ?_, ?_⟩
  all_goals
    apply Nat.eq_of_testBit_eq
    intro i
    simp only [Nat.testBit_and, Nat.testBit_or, Nat.testBit_shiftRight, Nat.testBit_shiftLeft,
      Nat.testBit_two_pow_sub_one, Nat.testBit_mod_two_pow]
  -- of the fields that start above a bit none reaches it
  · by_cases hi : i < 16
    · have habove : ¬ 248 ≤ 232 + i := by omega
      have hbelow : 232 + i - 216 = 16 + i := by omega
      have hreach : 216 ≤ 232 + i := by omega
      simp [hi, habove, hbelow, hreach]
    · simp [hi]
  · by_cases hi : i < 16
    · have htop : ¬ 248 ≤ 216 + i := by omega
      have habove : ¬ 232 ≤ 216 + i := by omega
      simp [hi, htop, habove]
    · simp [hi]
  · by_cases hi : i < 216
    · have htop : ¬ 248 ≤ i := by omega
      have hmiddle : ¬ 232 ≤ i := by omega
      have habove : ¬ 216 ≤ i := by omega
      simp [hi, htop, hmiddle, habove]
    · simp [hi]
  · have hclass : 248 + i - 232 = 16 + i := by omega
    have htype : 248 + i - 216 = 32 + i := by omega
    have hclassReach : 232 ≤ 248 + i := by omega
    have htypeReach : 216 ≤ 248 + i := by omega
    simp [hclass, htype, hclassReach, htypeReach]

/-! ## Whether fields come back -/

theorem InBits.mono {bits more : Nat} {field : Int} (h : InBits bits field) (hle : bits ≤ more) :
    InBits more field := by
  obtain ⟨n, rfl, hlt⟩ := inBits_iff.mp h
  exact inBits_iff.mpr ⟨n, rfl, Nat.lt_of_lt_of_le hlt (Nat.pow_le_pow_right (by decide) hle)⟩

theorem packable_of_fits {id : Id} (h : id.Fits) : id.Packable where
  reserved := h.reserved
  assetClass := h.assetClass.mono (by decide)
  feedType := h.feedType.mono (by decide)
  pairId := h.pairId.mono (by decide)

/-- The fields of a packed id come back exactly if each lies within its own bits. -/
theorem fits_iff_of_toWord {id : Id} {w : Word256} (h : id.toWord = .ok w) :
    ofWord w = id ↔ id.Fits := by
  constructor
  · intro hsame
    exact hsame ▸ fits_ofWord w
  · intro hfits
    obtain ⟨packed, hpacked, hback⟩ := exists_word_of_fits hfits
    rw [h] at hpacked
    exact Except.ok.inj hpacked ▸ hback

/-- A packing keeps fields apart exactly if each field lies within its own bits, or it is refused
for a field that leaves the word and can be told.  A field that leaves the word is always refused;
of any other field the bits beyond its width are laid over the fields above.  So fields within their
widths have words of their own, and every other packed id shares its word with one of these. -/
theorem keeps_apart_iff (id : Id) :
    ((∃ fault, id.toWord = .error fault ∧ Word256.IsOutOfRange fault) ∨
        (∃ w, id.toWord = .ok w ∧ ofWord w = id) ↔
      (∃ field, id.leaving? = some field ∧ field.natAbs < 10 ^ digitLimit) ∨ id.Fits) ∧
    ((∃ fault, id.toWord = .error fault) ↔ ¬ id.Packable) ∧
    (∀ w, id.toWord = .ok w → ofWord w = id.overlaid) ∧
    (id.Fits → ∀ other, other.Fits → id ≠ other → id.toWord ≠ other.toWord) ∧
    (id.Packable → ¬ id.Fits → ∃ other, other.Fits ∧ id ≠ other ∧ id.toWord = other.toWord) := by
  have hrefused : (∃ fault, id.toWord = .error fault) ↔ ¬ id.Packable := by
    rw [← exists_toWord_iff]
    cases hword : id.toWord <;> simp
  have htold : (∃ fault, id.toWord = .error fault ∧ Word256.IsOutOfRange fault) ↔
      ∃ field, id.leaving? = some field ∧ field.natAbs < 10 ^ digitLimit := by
    constructor
    · rintro ⟨fault, hfault, hout⟩
      obtain ⟨field, hfield, htold⟩ := refused_of_toWord hfault
      exact ⟨field, hfield, htold.mp hout⟩
    · rintro ⟨field, hfield, hshort⟩
      obtain ⟨fault, hfault⟩ := hrefused.mpr fun hpackable => by
        rw [packable_iff.mp hpackable] at hfield
        contradiction
      obtain ⟨_, hsame, htold⟩ := refused_of_toWord hfault
      obtain rfl := Option.some.inj (hfield.symm.trans hsame)
      exact ⟨fault, hfault, htold.mpr hshort⟩
  have hkept : (∃ w, id.toWord = .ok w ∧ ofWord w = id) ↔ id.Fits := by
    constructor
    · rintro ⟨w, hw, hsame⟩
      exact (fits_iff_of_toWord hw).mp hsame
    · exact exists_word_of_fits
  refine ⟨or_congr htold hkept, hrefused, fun w => ofWord_eq_overlaid, ?_, ?_⟩
  · intro hfits other hother hne hsame
    obtain ⟨w, hw, hback⟩ := exists_word_of_fits hfits
    have hotherBack := (fits_iff_of_toWord (hsame.symm.trans hw)).mpr hother
    exact hne (hback.symm.trans hotherBack)
  · intro hpackable hnot
    obtain ⟨w, hw⟩ := exists_toWord_iff.mpr hpackable
    refine ⟨ofWord w, fits_ofWord w, ?_, ?_⟩
    · intro hsame
      exact hnot ((fits_iff_of_toWord hw).mp hsame.symm)
    · rw [hw, toWord_ofWord]

/-- Fields that fill their bits come back; a negative pair id is refused; and a feed type of
seventeen bits is merged with an asset class. -/
theorem keeps_apart_full :
    (∃ w, toWord ⟨0xFFFF, 0xFFFF, 2 ^ 216 - 1, 0xFF⟩ = .ok w ∧
      ofWord w = ⟨0xFFFF, 0xFFFF, 2 ^ 216 - 1, 0xFF⟩) ∧
    (∃ fault, toWord ⟨0, 0, -1, 0⟩ = .error fault ∧ Word256.IsOutOfRange fault) ∧
    ∃ other : Id, other.Fits ∧ ⟨0, 2 ^ 16 + 5, 0, 0⟩ ≠ other ∧
      toWord ⟨0, 2 ^ 16 + 5, 0, 0⟩ = other.toWord := by
  have hfull : Fits ⟨0xFFFF, 0xFFFF, 2 ^ 216 - 1, 0xFF⟩ := by constructor <;> decide
  have hnegative : ¬ Packable ⟨0, 0, -1, 0⟩ := fun h => absurd h.pairId.1 (by decide)
  have htold : (-1 : Int).natAbs < 10 ^ digitLimit := Nat.one_lt_pow (by decide) (by decide)
  have hwide : ¬ Fits ⟨0, 2 ^ 16 + 5, 0, 0⟩ := fun h => absurd h.feedType.2 (by decide)
  refine ⟨?_, ?_, ?_⟩
  · refine ((keeps_apart_iff _).1.mpr (.inr hfull)).resolve_left ?_
    rintro ⟨fault, hfault, _⟩
    exact (keeps_apart_iff _).2.1.mp ⟨fault, hfault⟩ (packable_of_fits hfull)
  · refine ((keeps_apart_iff _).1.mpr (.inl ⟨-1, by decide, htold⟩)).resolve_right ?_
    rintro ⟨w, hw, _⟩
    exact hnegative (exists_toWord_iff.mp ⟨w, hw⟩)
  · exact (keeps_apart_iff _).2.2.2.2 (by constructor <;> decide) hwide

/-- An asset class of seventeen bits is packed as the lowest reserved bit, into the word of the id
that has this bit and nothing else. -/
theorem not_keeps_apart_wide_class :
    ∃ w, toWord ⟨2 ^ 16, 0, 0, 0⟩ = .ok w ∧ ofWord w = ⟨0, 0, 0, 1⟩ ∧
      toWord ⟨0, 0, 0, 1⟩ = .ok w := by
  refine ⟨⟨2 ^ 248, by decide⟩, rfl, rfl, rfl⟩

end Feed.Id

end OracleIndexer
