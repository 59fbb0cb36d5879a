import Mathlib.Algebra.Group.Nat.Defs

/-!
Doubles that are finite: natural numbers of 64 bits, and the negative of every finite double. A
packed double is finite if its exponent fits; rounding raises an exponent by no more than the
length of the significand asks for.
-/

namespace GeoDrafts.Decimal

open Float.Model
open Float.Model.UnpackedFloat hiding unpack pack

/-- A zero, or a number whose exponent is at most `k`. -/
def ExponentAtMost (k : Int) : UnpackedFloat → Prop
  | .zero _ => True
  | .finite _ _ e _ => e ≤ k
  | _ => False

theorem ExponentAtMost.mono {f : UnpackedFloat} {j k : Int} (h : ExponentAtMost j f)
    (hjk : j ≤ k) : ExponentAtMost k f := by
  cases f with
  | zero s => trivial
  | finite s m e hm => exact Int.le_trans h hjk
  | _ => exact h

/-! ## Packing -/

/-- What may be unpacked of a bit pattern with some exponent. If the exponent is all ones, this is
no finite number. Else the significand of a number has at most 53 bits, and its exponent is the one
written in the pattern, or that of the smallest numbers. -/
def FitsPattern (exponent : Nat) : UnpackedFloat → Prop
  | .zero _ => exponent < 2047
  | .finite _ m e _ => exponent < 2047 ∧ m < 2 ^ 53 ∧ e ≤ max ((exponent : Int) - 1075) (-1074)
  | _ => exponent = 2047

theorem fitsPattern_unpack (b : BitVec Format.binary64.numBits) :
    FitsPattern (unpackExponent b).toNat (UnpackedFloat.unpack .binary64 b) := by
  have hmantissa : (unpackMantissa b).toNat < 2 ^ 52 := (unpackMantissa b).isLt
  have hbound : (unpackExponent b).toNat < 2048 := (unpackExponent b).isLt
  have hbias : ((Format.binary64.exponentBias : Nat) : Int) = 1023 := rfl
  have hwidth : Format.binary64.mantissaBitsWithoutImplicit = 52 := rfl
  unfold UnpackedFloat.unpack
  dsimp only
  by_cases hones : unpackExponent b = -1#_
  · have hexponent : (unpackExponent b).toNat = 2047 := congrArg BitVec.toNat hones
    rw [if_pos hones]
    by_cases hm : unpackMantissa b = 0#_
    · rw [if_pos hm]
      exact hexponent
    · rw [if_neg hm]
      exact hexponent
  · have hlt : (unpackExponent b).toNat < 2047 := by
      have hne : (unpackExponent b).toNat ≠ 2047 := fun h => hones (BitVec.eq_of_toNat_eq h)
      omega
    rw [if_neg hones]
    by_cases hzero : unpackExponent b = 0#_
    · rw [if_pos hzero]
      by_cases hm : unpackMantissa b = 0#_
      · rw [dif_pos hm]
        exact hlt
      · have hexponent : (unpackExponent b).toNat = 0 := congrArg BitVec.toNat hzero
        rw [dif_neg hm]
        exact ⟨hlt, by omega, by omega⟩
    · rw [if_neg hzero]
      exact ⟨hlt, (1#1 ++ unpackMantissa b).isLt, by omega⟩

theorem isFinite_unpack (b : BitVec Format.binary64.numBits) :
    (UnpackedFloat.unpack .binary64 b).isFinite = true ↔ (unpackExponent b).toNat < 2047 := by
  have hfits := fitsPattern_unpack b
  cases hunpack : UnpackedFloat.unpack .binary64 b with
  | zero s =>
    rw [hunpack] at hfits
    exact ⟨fun _ => hfits, fun _ => rfl⟩
  | finite s m e hm =>
    rw [hunpack] at hfits
    exact ⟨fun _ => hfits.1, fun _ => rfl⟩
  | _ =>
    rw [hunpack] at hfits
    exact ⟨fun h => absurd h Bool.false_ne_true, fun hlt => absurd hfits (Nat.ne_of_lt hlt)⟩

theorem bounds_of_unpack {b : BitVec Format.binary64.numBits} {s : Sign} {m : Nat} {e : Int}
    {hm : 0 < m} (h : UnpackedFloat.unpack .binary64 b = .finite s m e hm) :
    m < 2 ^ 53 ∧ e ≤ max (((unpackExponent b).toNat : Int) - 1075) (-1074) := by
  have hfits := fitsPattern_unpack b
  rw [h] at hfits
  exact hfits.2

/-- The exponent that is written in the pattern of a number. -/
theorem unpackExponent_pack {f : UnpackedFloat} {k : Int} (h : ExponentAtMost k f) (hk : k ≤ 971) :
    ((unpackExponent (UnpackedFloat.pack .binary64 f)).toNat : Int) ≤ max (k + 1075) 0 := by
  cases f with
  | zero s =>
    change ((unpackExponent (packComponents .binary64 s 0 0)).toNat : Int) ≤ _
    rw [unpackExponent_packComponents]
    exact Int.le_max_right _ _
  | finite s m e hm =>
    have hbias : ((Format.binary64.exponentBias : Nat) : Int) = 1023 := rfl
    have he : e ≤ k := h
    unfold UnpackedFloat.pack
    dsimp only
    split
    · rename_i hbig
      rw [hbias] at hbig
      omega
    · split
      · rw [unpackExponent_packComponents, BitVec.toNat_ofNat, hbias]
        have hmod := Nat.mod_le (e + 1023 + 52).toNat (2 ^ 11)
        omega
      · rw [unpackExponent_packComponents]
        exact Int.le_max_right _ _
  | _ => exact absurd h id

/-- A number whose exponent fits is packed as a finite double. -/
theorem isFinite_pack {f : UnpackedFloat} (h : ExponentAtMost 971 f) :
    (Float.Model.pack f).isFinite = true := by
  have hexponent := unpackExponent_pack h (Int.le_refl _)
  have hlt : (unpackExponent (UnpackedFloat.pack .binary64 f)).toNat < 2047 := by omega
  exact (isFinite_unpack _).mpr hlt

/-- What is unpacked of a finite double has an exponent that fits. -/
theorem exponentAtMost_unpack {x : Float.Model} (h : x.isFinite = true) :
    ExponentAtMost 971 x.unpack := by
  have hexponent := (isFinite_unpack _).mp h
  cases hunpack : x.unpack with
  | zero s => trivial
  | finite s m e hm =>
    have hbounds := bounds_of_unpack hunpack
    exact Int.le_trans hbounds.2 (by omega)
  | _ =>
    rw [Float.Model.isFinite, hunpack] at h
    cases h

/-- A packed number has a significand of at most 53 bits and no greater exponent than before,
unless it is one of the smallest numbers. -/
theorem unpack_pack {f : UnpackedFloat} {k : Int} (h : ExponentAtMost k f) (hlow : -1074 ≤ k)
    (hhigh : k ≤ 971) : ExponentAtMost k (Float.Model.pack f).unpack ∧
      ∀ s m e hm, (Float.Model.pack f).unpack = .finite s m e hm → m < 2 ^ 53 := by
  have hexponent := unpackExponent_pack h hhigh
  have hfinite := isFinite_pack (h.mono hhigh)
  cases hunpack : (Float.Model.pack f).unpack with
  | zero s => exact ⟨trivial, fun _ _ _ _ heq => by cases heq⟩
  | finite s m e hm =>
    obtain ⟨hmantissa, he⟩ := bounds_of_unpack hunpack
    have hbits : (Float.Model.pack f).toBits.toBitVec = UnpackedFloat.pack .binary64 f := rfl
    rw [hbits] at he
    constructor
    · change e ≤ k
      omega
    · intro s' m' e' hm' heq
      cases heq
      exact hmantissa
  | _ =>
    rw [Float.Model.isFinite, hunpack] at hfinite
    cases hfinite

/-! ## Rounding -/

theorem mantissa_shift_le (em : ExtendedMantissa) (n : Nat) :
    (em >>> n).mantissa ≤ em.mantissa := by
  induction n with
  | zero => exact Nat.le_refl _
  | succ n ih => exact Nat.le_trans (Nat.div_le_self _ 2) ih

theorem roundedMantissa_le (em : ExtendedMantissa) : em.roundedMantissa ≤ em.mantissa + 1 := by
  unfold ExtendedMantissa.roundedMantissa Accuracy.roundToNearestEven
  split <;> omega

/-- The exponent to which a significand of at most `k` bits is shifted. -/
theorem shiftToTargetExponent_bounds {m k : Nat} (hm : m < 2 ^ k) (hk : 0 < k) (e : Int)
    (accuracy : Accuracy) :
    (shiftToTargetExponent .binary64 m e accuracy).1.mantissa ≤ m ∧
      (shiftToTargetExponent .binary64 m e accuracy).2 ≤ max (e + k) (-1074) := by
  constructor
  · have hmantissa : (ExtendedMantissa.ofMantissaAndAccuracy m accuracy).mantissa = m := by
      unfold ExtendedMantissa.ofMantissaAndAccuracy
      split <;> rfl
    exact Nat.le_trans (mantissa_shift_le _ _) (Nat.le_of_eq hmantissa)
  · have hlog : m.log2 < k := by
      cases Nat.eq_zero_or_pos m with
      | inl hzero =>
        subst hzero
        exact hk
      | inr hpos => exact (Nat.log2_lt (Nat.ne_of_gt hpos)).mpr hm
    have htarget : Format.binary64.targetExponent (totalExponent m e) =
        max ((m.log2 : Int) + 1 + e - 53) (-1074) := rfl
    simp only [shiftToTargetExponent, shiftToExponent, htarget]
    omega

/-- The exponent of a rounded significand of at most `k` bits. -/
theorem exponentAtMost_round {m k : Nat} (hm : m < 2 ^ k) (hk : 0 < k) {e j : Int}
    (hj : e + (2 * k + 1) ≤ j) (hlow : k - 1073 ≤ j) (s : Sign) (accuracy : Accuracy) :
    ExponentAtMost j (roundWithAccuracy .binary64 s m e accuracy) := by
  unfold roundWithAccuracy
  obtain ⟨hmantissa, hexponent⟩ := shiftToTargetExponent_bounds hm hk e accuracy
  generalize shiftToTargetExponent .binary64 m e accuracy = shifted at hmantissa hexponent ⊢
  have hrounded : shifted.1.roundedMantissa < 2 ^ (k + 1) := by
    have hle := roundedMantissa_le shifted.1
    have hpow : 2 ^ (k + 1) = 2 * 2 ^ k := Nat.pow_succ'
    omega
  obtain ⟨-, hfinal⟩ :=
    shiftToTargetExponent_bounds hrounded (Nat.succ_pos k) shifted.2 Accuracy.exact
  dsimp only
  generalize shiftToTargetExponent .binary64 shifted.1.roundedMantissa shifted.2 .exact = final
    at hfinal ⊢
  by_cases hzero : final.1.mantissa = 0
  · rw [dif_pos hzero]
    trivial
  · rw [dif_neg hzero]
    change final.2 ≤ j
    omega

theorem exponentAtMost_mul {f g : UnpackedFloat} {i j k : Int} (hf : ExponentAtMost i f)
    (hfm : ∀ s m e hm, f = .finite s m e hm → m < 2 ^ 53) (hg : ExponentAtMost j g)
    (hgm : ∀ s m e hm, g = .finite s m e hm → m < 2 ^ 53) (hk : i + j + 213 ≤ k)
    (hlow : -967 ≤ k) : ExponentAtMost k (UnpackedFloat.mul .binary64 f g) := by
  cases f with
  | zero s =>
    cases g with
    | zero s' => trivial
    | finite s' m e hm => trivial
    | _ => exact absurd hg id
  | finite s m e hm =>
    cases g with
    | zero s' => trivial
    | finite s' m' e' hm' =>
      have hproduct : m * m' < 2 ^ 106 := by
        have hpow : 2 ^ 106 = 2 ^ 53 * 2 ^ 53 := by decide
        rw [hpow]
        exact Nat.mul_lt_mul_of_lt_of_lt (hfm _ _ _ _ rfl) (hgm _ _ _ _ rfl)
      have he : e ≤ i := hf
      have he' : e' ≤ j := hg
      exact exponentAtMost_round hproduct (by decide) (by omega) (by omega) _ _
    | _ => exact absurd hg id
  | _ => exact absurd hf id

/-! ## Numbers -/

/-- The double of a number below `2 ^ 53`. -/
theorem exponentAtMost_ofNat {n : Nat} (hn : n < 2 ^ 53) :
    ExponentAtMost 213 (UnpackedFloat.ofNat .binary64 n) := by
  unfold UnpackedFloat.ofNat UnpackedFloat.ofInt UnpackedFloat.normalize
  split
  · rename_i hneg
    have hlt : (n : Int) < 0 := Int.compare_eq_lt.mp hneg
    omega
  · trivial
  · -- The significand of `n` is filled up to 53 bits before it is rounded.
    have htarget : Format.binary64.targetExponent (totalExponent n 0) =
        max ((n.log2 : Int) + 1 + 0 - 53) (-1074) := rfl
    simp only [UnpackedFloat.round, decreaseExponent, Int.toNat_natCast, htarget]
    have hshift : (0 - max ((n.log2 : Int) + 1 + 0 - 53) (-1074)).toNat ≤ 52 := by omega
    generalize (0 - max ((n.log2 : Int) + 1 + 0 - 53) (-1074)).toNat = shift at hshift ⊢
    have hmantissa : n <<< shift < 2 ^ 105 := by
      rw [Nat.shiftLeft_eq]
      calc n * 2 ^ shift
          < 2 ^ 53 * 2 ^ shift := Nat.mul_lt_mul_of_pos_right hn (Nat.two_pow_pos shift)
        _ ≤ 2 ^ 53 * 2 ^ 52 :=
            Nat.mul_le_mul_left _ (Nat.pow_le_pow_right (by decide) hshift)
        _ = 2 ^ 105 := by decide
    exact exponentAtMost_round hmantissa (by decide) (by omega) (by omega) _ _

/-- One, as the fast path of a decimal literal multiplies by it. -/
theorem unpack_one : (Float.ofBits 0x3FF0000000000000).toModel.unpack =
    .finite .positive (2 ^ 52) (-52) (by decide) := by
  rfl

/-- A number that is too long for the fast path. -/
theorem exponentAtMost_ofScientific {n : Nat} (hn : n ≤ 2 ^ 64) :
    ExponentAtMost 971 (UnpackedFloat.ofScientific .binary64 n (Int.ofNat 0)) := by
  have hbits : Format.binary64.mantissaBits = 53 := rfl
  unfold UnpackedFloat.ofScientific
  by_cases hzero : n = 0
  · rw [dif_pos hzero]
    trivial
  · rw [dif_neg hzero, if_neg (by decide), if_neg, if_pos (by decide)]
    · unfold UnpackedFloat.mul
      dsimp only
      refine exponentAtMost_round (k := 118) ?_ (by decide) (by decide) (by decide) _ _
      rw [hbits, Nat.shiftLeft_eq]
      change n * 2 ^ 53 * 1 < 2 ^ 118
      omega
    · refine Int.not_lt.mpr ?_
      change -(2048 + (n.log2 : Int)) ≤ 0
      omega

theorem isFinite_ofNat {n : Nat} (hn : n ≤ 2 ^ 64) : (Float.ofNat n).isFinite = true := by
  change (Float.ofScientific n false 0).isFinite = true
  unfold Float.ofScientific
  split
  · rename_i hsmall
    have hword : n.toUInt64.toNat = n :=
      UInt64.toNat_ofNat_of_lt' (Nat.lt_trans hsmall.1 (by decide))
    have hsize := exponentAtMost_ofNat hsmall.1
    obtain ⟨hexponent, hmantissa⟩ := unpack_pack hsize (by decide) (by decide)
    change (Float.Model.pack (UnpackedFloat.mul .binary64
      (Float.Model.pack (UnpackedFloat.ofNat .binary64 n.toUInt64.toNat)).unpack
      (Float.ofBits 0x3FF0000000000000).toModel.unpack)).isFinite = true
    rw [hword, unpack_one]
    refine isFinite_pack ((exponentAtMost_mul (j := -52) (k := 374) hexponent hmantissa
      (Int.le_refl _) ?_ (by decide) (by decide)).mono (by decide))
    intro s m e hm heq
    cases heq
    decide
  · exact isFinite_pack (exponentAtMost_ofScientific hn)

theorem isFinite_neg {x : Float} (h : x.isFinite = true) : (-x).isFinite = true := by
  have hneg : ExponentAtMost 971 x.toModel.unpack.neg := by
    have hx := exponentAtMost_unpack h
    cases hunpack : x.toModel.unpack with
    | finite s m e hm =>
      rw [hunpack] at hx
      exact hx
    | zero s => trivial
    | _ =>
      rw [hunpack] at hx
      exact hx
  exact isFinite_pack hneg

theorem isFinite_ofInt {n : Int} (hn : n.natAbs ≤ 2 ^ 64) : (Float.ofInt n).isFinite = true := by
  cases n with
  | ofNat n => exact isFinite_ofNat hn
  | negSucc n => exact isFinite_neg (isFinite_ofNat hn)

end GeoDrafts.Decimal
