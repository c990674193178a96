import OracleIndexer.Proofs.Feed.IdDigits
set_option autoImplicit false

/-!
# Packing feed ids

The word of a feed id whose fields stay within their widths is the sum of the fields at their
places: shifted apart, they share no bit.  A word is packed again from its own fields.
-/

namespace OracleIndexer

namespace Feed.Id

/-- Joining four words is shifting three of them and laying the bits over each other. -/
theorem join_eq_ok {reserved assetClass feedType pairId top second third upper middle all : Word256}
    (htop : reserved.shiftLeft reservedShift = .ok top)
    (hsecond : assetClass.shiftLeft assetClassShift = .ok second)
    (hupper : top.or second.toNat = .ok upper)
    (hthird : feedType.shiftLeft feedTypeShift = .ok third)
    (hmiddle : upper.or third.toNat = .ok middle) (hall : middle.or pairId.toNat = .ok all) :
    join (.ok reserved) (.ok assetClass) (.ok feedType) (.ok pairId) = .ok all := by
  rw [join, Outcome.ok_bind, htop, Outcome.ok_bind, Outcome.ok_bind, hsecond, Outcome.ok_bind,
    hupper, Outcome.ok_bind, Outcome.ok_bind, hthird, Outcome.ok_bind, hmiddle, Outcome.ok_bind,
    Outcome.ok_bind, hall]

/-- Fields within their widths are packed, each at its place. -/
theorem toWord_of_lt {reserved assetClass feedType pairId : Nat} (hreserved : reserved < 2 ^ 8)
    (hclass : assetClass < 2 ^ 16) (htype : feedType < 2 ^ 16) (hpair : pairId < 2 ^ 216) :
    ∃ w : Word256, toWord ⟨assetClass, feedType, pairId, reserved⟩ = .ok w ∧
      w.toNat = ((reserved * 2 ^ 16 + assetClass) * 2 ^ 16 + feedType) * 2 ^ 216 + pairId := by
  have hword : ∀ {n : Nat}, n < 2 ^ 256 → ∃ h, Word256.ofInt n = .ok ⟨n, h⟩ := fun hn =>
    ⟨Word256.lt_iff.mpr hn, Word256.ofInt_natCast _⟩
  obtain ⟨_, hr⟩ := hword (by omega : reserved < 2 ^ 256)
  obtain ⟨_, hc⟩ := hword (by omega : assetClass < 2 ^ 256)
  obtain ⟨_, ht⟩ := hword (by omega : feedType < 2 ^ 256)
  obtain ⟨_, hp⟩ := hword (by omega : pairId < 2 ^ 256)
  -- each field starts where those already joined have only zeros
  have hmiddle : reserved * 2 ^ 248 + assetClass * 2 ^ 232
      = (reserved * 2 ^ 16 + assetClass) * 2 ^ 232 := by
    rw [Nat.add_mul, Nat.mul_assoc, ← Nat.pow_add]
  have hall : (reserved * 2 ^ 16 + assetClass) * 2 ^ 232 + feedType * 2 ^ 216
      = ((reserved * 2 ^ 16 + assetClass) * 2 ^ 16 + feedType) * 2 ^ 216 := by
    rw [Nat.add_mul _ feedType, Nat.mul_assoc, ← Nat.pow_add]
  rw [toWord, hr, hc, ht, hp]
  refine ⟨_, join_eq_ok (Word256.shiftLeft_eq_ok ?_) (Word256.shiftLeft_eq_ok ?_)
    (Word256.or_eq_ok rfl ?_ ?_) (Word256.shiftLeft_eq_ok ?_)
    (Word256.or_eq_ok hmiddle ?_ ?_) (Word256.or_eq_ok hall ?_ ?_), rfl⟩
  all_goals simp only [reservedShift, assetClassShift, feedTypeShift]; omega

/-- A word is the sum of its fields at their places. -/
theorem exists_fields (w : Word256) :
    ∃ reserved assetClass feedType pairId : Nat, reserved < 2 ^ 8 ∧ assetClass < 2 ^ 16 ∧
      feedType < 2 ^ 16 ∧ pairId < 2 ^ 216 ∧
      w.toNat = ((reserved * 2 ^ 16 + assetClass) * 2 ^ 16 + feedType) * 2 ^ 216 + pairId := by
  have hw : w.toNat < 2 ^ 256 := Word256.lt_iff.mp w.isLt
  refine ⟨w.toNat / 2 ^ 248, w.toNat / 2 ^ 232 % 2 ^ 16, w.toNat / 2 ^ 216 % 2 ^ 16,
    w.toNat % 2 ^ 216, ?_, ?_, ?_, ?_, ?_⟩
  all_goals omega

/-- A word is packed again from its fields. -/
theorem toWord_ofWord (w : Word256) : (ofWord w).toWord = .ok w := by
  obtain ⟨reserved, assetClass, feedType, pairId, hreserved, hclass, htype, hpair, hw⟩ :=
    exists_fields w
  obtain ⟨packed, hpacked, hsum⟩ := toWord_of_lt hreserved hclass htype hpair
  rw [ofWord_eq hclass htype hpair hw, hpacked, Word256.ext_toNat (hsum.trans hw.symm)]

end Feed.Id

end OracleIndexer
