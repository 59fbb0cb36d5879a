import GeoDrafts.Decimal.Reading
import GeoDrafts.Proofs.Decimal.Finite
import Mathlib

/-!
No double that digits denote is NaN: the digits are multiplied or divided once, by a power of ten,
which is neither zero nor infinite.
-/

namespace GeoDrafts.Decimal

open Float.Model
open Float.Model.UnpackedFloat hiding unpack pack

/-! ## Packing -/

theorem isNaN_unpack {b : BitVec Format.binary64.numBits}
    (h : (UnpackedFloat.unpack .binary64 b).isNaN = true) :
    unpackExponent b = -1#_ ∧ unpackMantissa b ≠ 0 := by
  unfold UnpackedFloat.unpack at h
  dsimp only at h
  split at h
  · rename_i hexponent
    split at h
    · cases h
    · rename_i hmantissa
      exact ⟨hexponent, hmantissa⟩
  · split at h
    · split at h <;> cases h
    · cases h

theorem isNaN_pack {f : UnpackedFloat} (h : f.isNaN = false) :
    (Float.Model.pack f).isNaN = false := by
  rw [Bool.eq_false_iff]
  intro hnan
  obtain ⟨hexponent, hmantissa⟩ := isNaN_unpack hnan
  change unpackExponent (UnpackedFloat.pack .binary64 f) = _ at hexponent
  change unpackMantissa (UnpackedFloat.pack .binary64 f) ≠ 0 at hmantissa
  cases f with
  | notANumber => cases h
  | infinity s =>
    simp only [UnpackedFloat.pack, packedInfinity, unpackMantissa_packComponents] at hmantissa
    exact hmantissa rfl
  | zero s =>
    simp only [UnpackedFloat.pack, packedZero, unpackExponent_packComponents] at hexponent
    exact absurd hexponent (by decide)
  | finite s m e hm =>
    unfold UnpackedFloat.pack at hexponent hmantissa
    dsimp only at hexponent hmantissa
    split at hexponent
    · rename_i hbig
      rw [if_pos hbig, packedInfinity, unpackMantissa_packComponents] at hmantissa
      exact hmantissa rfl
    · rename_i hsmall
      split at hexponent
      · rw [unpackExponent_packComponents, ← BitVec.toNat_inj, BitVec.toNat_ofNat] at hexponent
        have hlt : (e + Format.binary64.exponentBias +
            Format.binary64.mantissaBitsWithoutImplicit).toNat + 1 < 2048 :=
          Nat.lt_of_not_le hsmall
        have hones : (e + Format.binary64.exponentBias +
            Format.binary64.mantissaBitsWithoutImplicit).toNat % 2048 = 2047 := hexponent
        omega
      · rw [unpackExponent_packComponents] at hexponent
        exact absurd hexponent (by decide)

/-! ## Products and quotients -/

theorem isFinite_roundWithAccuracy (s : Sign) (m : Nat) (e : Int) (accuracy : Accuracy) :
    (roundWithAccuracy .binary64 s m e accuracy).isFinite = true := by
  unfold roundWithAccuracy
  dsimp only
  split <;> rfl

theorem isFinite_mul {f g : UnpackedFloat} (hf : f.isFinite = true) (hg : g.isFinite = true) :
    (UnpackedFloat.mul .binary64 f g).isFinite = true := by
  cases f <;> cases g <;> cases hf <;> cases hg <;>
    first | rfl | exact isFinite_roundWithAccuracy _ _ _ _

theorem isFinite_div {f : UnpackedFloat} (hf : f.isFinite = true) (s : Sign) (m : Nat) (e : Int)
    (hm : 0 < m) : (UnpackedFloat.div .binary64 f (.finite s m e hm)).isFinite = true := by
  cases f with
  | zero s' => rfl
  | finite s' m' e' hm' => exact isFinite_roundWithAccuracy _ _ _ _
  | _ => cases hf

theorem isNaN_of_isFinite {f : UnpackedFloat} (h : f.isFinite = true) : f.isNaN = false := by
  cases f <;> first | rfl | cases h

/-! ## Digits -/

/-- A power of ten that is exact is neither zero nor infinite. -/
theorem unpack_power (i : Fin Float.exactlyRepresentablePowersOfTen.size) :
    ∃ s m e, ∃ hm : 0 < m,
      (Float.exactlyRepresentablePowersOfTen[i]).toModel.unpack = .finite s m e hm := by
  revert i
  have hall : ∀ i : Fin Float.exactlyRepresentablePowersOfTen.size,
      (match (Float.exactlyRepresentablePowersOfTen[i]).toModel.unpack with
        | .finite .. => true
        | _ => false) = true := by
    decide +kernel
  intro i
  have hpower := hall i
  split at hpower
  · rename_i s m e hm heq
    exact ⟨s, m, e, hm, heq⟩
  · cases hpower

/-- A number below `2 ^ 53` as a double. -/
theorem isFinite_toFloat {n : Nat} (hn : n < 2 ^ 53) :
    n.toUInt64.toFloat.toModel.unpack.isFinite = true := by
  have hword : n.toUInt64.toNat = n :=
    UInt64.toNat_ofNat_of_lt' (Nat.lt_trans hn (by decide))
  have hsize := exponentAtMost_ofNat hn
  rw [← hword] at hsize
  exact isFinite_pack (hsize.mono (by decide))

theorem isNaN_unpackedOfScientific (m : Nat) (e : Int) :
    (UnpackedFloat.ofScientific .binary64 m e).isNaN = false := by
  unfold UnpackedFloat.ofScientific
  split
  · rfl
  · split
    · rfl
    · split
      · rfl
      · split
        · exact isNaN_of_isFinite (isFinite_mul rfl rfl)
        · exact isNaN_of_isFinite (isFinite_div rfl _ _ _ _)

theorem isNaN_ofScientific (m : Nat) (negative : Bool) (e : Nat) :
    (Float.ofScientific m negative e).isNaN = false := by
  unfold Float.ofScientific
  split
  · rename_i hfast
    have hsize : e < Float.exactlyRepresentablePowersOfTen.size := Nat.lt_succ_of_le hfast.2
    obtain ⟨s, p, k, hp, hpower⟩ := unpack_power ⟨e, hsize⟩
    have hm := isFinite_toFloat hfast.1
    dsimp only
    split
    · change (Float.Model.pack (UnpackedFloat.div .binary64 m.toUInt64.toFloat.toModel.unpack
        (Float.exactlyRepresentablePowersOfTen[e]).toModel.unpack)).isNaN = false
      exact isNaN_pack (isNaN_of_isFinite (hpower ▸ isFinite_div hm s p k hp))
    · change (Float.Model.pack (UnpackedFloat.mul .binary64 m.toUInt64.toFloat.toModel.unpack
        (Float.exactlyRepresentablePowersOfTen[e]).toModel.unpack)).isNaN = false
      exact isNaN_pack (isNaN_of_isFinite (isFinite_mul hm (hpower ▸ rfl)))
  · exact isNaN_pack (isNaN_unpackedOfScientific m _)

theorem isNaN_neg {x : Float} (h : x.isNaN = false) : (-x).isNaN = false := by
  refine isNaN_pack (f := x.toModel.unpack.neg) ?_
  have hx : x.toModel.unpack.isNaN = false := h
  cases hunpack : x.toModel.unpack with
  | notANumber =>
    rw [hunpack] at hx
    cases hx
  | _ => rfl

theorem isNaN_nearest (digits : Nat) (exponent : Int) :
    (nearest digits exponent).isNaN = false := by
  unfold nearest
  split
  · decide +kernel
  · dsimp only
    split
    · decide +kernel
    · split
      · decide +kernel
      · exact isNaN_ofScientific _ _ _

end GeoDrafts.Decimal
