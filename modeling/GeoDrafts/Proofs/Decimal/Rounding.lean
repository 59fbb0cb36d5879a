import GeoDrafts.Proofs.Decimal.Finite
import Mathlib

/-!
Rounding of a number that is a double already. What is shifted out of its significand is zero, so
rounding gives the number itself, in the one form that packing keeps.
-/

namespace GeoDrafts.Decimal

open Float.Model
open Float.Model.UnpackedFloat hiding unpack pack

/-! ## Numbers that are doubles -/

/-- The size of the number is a whole number of 53 bits times a power of two in the range of
doubles. -/
def IsDouble (q : ℚ) : Prop :=
  ∃ (m : ℕ) (e : ℤ), m < 2 ^ 53 ∧ -1074 ≤ e ∧ e ≤ 971 ∧ |q| = m * 2 ^ e

def target (m : ℕ) (e : ℤ) : ℤ := max ((m.log2 : ℤ) + e - 52) (-1074)

theorem targetExponent_eq (m : ℕ) (e : ℤ) :
    Format.binary64.targetExponent (totalExponent m e) = target m e := by
  change max ((m.log2 : ℤ) + 1 + e - 53) (-1074) = target m e
  rw [target]
  omega

/-- The double in normal form of a number that is not negative. -/
def Holds (q : ℚ) : UnpackedFloat → Prop
  | .zero _ => q = 0
  | .finite .positive m e _ => e = target m e ∧ e ≤ 971 ∧ q = m * 2 ^ e
  | _ => False

theorem Holds.cases {q : ℚ} {f : UnpackedFloat} (h : Holds q f) :
    (∃ s, f = .zero s ∧ q = 0) ∨
      ∃ m e hm, f = .finite .positive m e hm ∧ e = target m e ∧ e ≤ 971 ∧ q = m * 2 ^ e := by
  cases f with
  | zero s => exact .inl ⟨s, rfl, h⟩
  | finite s m e hm =>
    cases s with
    | positive => exact .inr ⟨m, e, hm, rfl, h⟩
    | negative => cases h
  | _ => cases h

theorem Holds.exists_finite {q : ℚ} {f : UnpackedFloat} (h : Holds q f) (hq : q ≠ 0) :
    ∃ m e hm, f = .finite .positive m e hm ∧ e = target m e ∧ q = m * 2 ^ e := by
  rcases h.cases with ⟨s, -, hzero⟩ | ⟨m, e, hm, hf, he, -, hvalue⟩
  · exact absurd hzero hq
  · exact ⟨m, e, hm, hf, he, hvalue⟩

/-! ## Shifting -/

theorem mantissa_shift (em : ExtendedMantissa) (n : ℕ) :
    (em >>> n).mantissa = em.mantissa / 2 ^ n := by
  induction n with
  | zero => exact (Nat.div_one _).symm
  | succ n ih =>
    change (em >>> n).mantissa / 2 = _
    rw [ih, Nat.div_div_eq_div_mul, pow_succ]

/-- Zeros that are shifted out leave the significand exact. -/
theorem shift_of_dvd {m n : ℕ} (h : 2 ^ n ∣ m) :
    (⟨m, false, false⟩ : ExtendedMantissa) >>> n = ⟨m / 2 ^ n, false, false⟩ := by
  induction n with
  | zero => rw [pow_zero, Nat.div_one]; rfl
  | succ n ih =>
    obtain ⟨k, rfl⟩ := h
    have hdvd : 2 ^ n ∣ 2 ^ (n + 1) * k := ⟨2 * k, by ring⟩
    have hshift : 2 ^ (n + 1) * k / 2 ^ n = 2 * k := by
      rw [show 2 ^ (n + 1) * k = 2 ^ n * (2 * k) by ring,
        Nat.mul_div_cancel_left _ (Nat.two_pow_pos n)]
    change ExtendedMantissa.shiftRightOne
      ((⟨2 ^ (n + 1) * k, false, false⟩ : ExtendedMantissa) >>> n) = _
    rw [ih hdvd, hshift, Nat.mul_div_cancel_left _ (Nat.two_pow_pos (n + 1))]
    simp [ExtendedMantissa.shiftRightOne]

theorem mantissa_ofMantissaAndAccuracy (m : ℕ) (accuracy : Accuracy) :
    (ExtendedMantissa.ofMantissaAndAccuracy m accuracy).mantissa = m := by
  unfold ExtendedMantissa.ofMantissaAndAccuracy
  split <;> rfl

theorem le_roundedMantissa (em : ExtendedMantissa) : em.mantissa ≤ em.roundedMantissa := by
  unfold ExtendedMantissa.roundedMantissa Accuracy.roundToNearestEven
  split <;> omega

theorem shiftToTargetExponent_eq {m : ℕ} {e : ℤ} (h : e ≤ target m e) (accuracy : Accuracy) :
    shiftToTargetExponent .binary64 m e accuracy =
      (ExtendedMantissa.ofMantissaAndAccuracy m accuracy >>> (target m e - e).toNat,
        target m e) := by
  simp only [shiftToTargetExponent, shiftToExponent, targetExponent_eq, Prod.mk.injEq, true_and]
  omega

/-! ## Rounding -/

/-- The significand after the first shift, with the last bit rounded. -/
def roundedOnce (m : ℕ) (e : ℤ) (accuracy : Accuracy) : ℕ :=
  (ExtendedMantissa.ofMantissaAndAccuracy m accuracy >>> (target m e - e).toNat).roundedMantissa

section
variable {m : ℕ} {e : ℤ}

/-- The shift leaves 53 bits, or fewer if the number is one of the smallest. -/
theorem shifted_bounds (h : e ≤ target m e) :
    m / 2 ^ (target m e - e).toNat < 2 ^ 53 ∧
      (target m e = -1074 ∨ 2 ^ 52 ≤ m / 2 ^ (target m e - e).toNat) := by
  have htarget : target m e = max ((m.log2 : ℤ) + e - 52) (-1074) := rfl
  rcases eq_or_ne m 0 with rfl | hne
  · have hlog : Nat.log2 0 = 0 := rfl
    rw [Nat.zero_div]
    exact ⟨by decide, .inl (by omega)⟩
  constructor
  · rw [Nat.div_lt_iff_lt_mul (Nat.two_pow_pos _), ← pow_add]
    exact (Nat.log2_lt hne).mp (by omega)
  · rcases le_or_gt ((m.log2 : ℤ) + e - 52) (-1074) with hsmall | hlarge
    · exact .inl (by omega)
    · refine .inr ?_
      rw [Nat.le_div_iff_mul_le (Nat.two_pow_pos _), ← pow_add]
      exact (Nat.le_log2 hne).mp (by omega)

theorem roundedOnce_bounds (m : ℕ) (e : ℤ) (accuracy : Accuracy) :
    m / 2 ^ (target m e - e).toNat ≤ roundedOnce m e accuracy ∧
      roundedOnce m e accuracy ≤ m / 2 ^ (target m e - e).toNat + 1 := by
  have hlow := le_roundedMantissa
    (ExtendedMantissa.ofMantissaAndAccuracy m accuracy >>> (target m e - e).toNat)
  have hhigh := roundedMantissa_le
    (ExtendedMantissa.ofMantissaAndAccuracy m accuracy >>> (target m e - e).toNat)
  rw [mantissa_shift, mantissa_ofMantissaAndAccuracy] at hlow hhigh
  exact ⟨hlow, hhigh⟩

/-- A significand of the right length is in normal form. -/
theorem target_eq_self (hm : m < 2 ^ 53) (hleast : -1074 ≤ e) (h : e = -1074 ∨ 2 ^ 52 ≤ m) :
    target m e = e := by
  have htarget : target m e = max ((m.log2 : ℤ) + e - 52) (-1074) := rfl
  rcases Nat.eq_zero_or_pos m with rfl | hpos
  · have hlog : Nat.log2 0 = 0 := rfl
    omega
  · have hne : m ≠ 0 := Nat.pos_iff_ne_zero.mp hpos
    have hlt := (Nat.log2_lt hne).mpr hm
    rcases h with hleast | hnormal
    · omega
    · have hle := (Nat.le_log2 hne).mpr hnormal
      omega

/-- Rounding shifts once, and once more if the rounded significand has got a bit more. -/
theorem roundWithAccuracy_eq (h : e ≤ target m e) (s : Sign) (accuracy : Accuracy) :
    roundWithAccuracy .binary64 s m e accuracy =
      if roundedOnce m e accuracy = 2 ^ 53 then
        .finite s (2 ^ 52) (target m e + 1) (Nat.two_pow_pos 52)
      else if hr : roundedOnce m e accuracy = 0 then .zero s
      else .finite s (roundedOnce m e accuracy) (target m e) (Nat.pos_of_ne_zero hr) := by
  obtain ⟨hlt, hlong⟩ := shifted_bounds h
  obtain ⟨hlow, hhigh⟩ := roundedOnce_bounds m e accuracy
  have hleast : -1074 ≤ target m e := le_max_right _ _
  replace hlong := hlong.imp_right hlow.trans'
  unfold roundWithAccuracy
  rw [shiftToTargetExponent_eq h]
  dsimp only
  rw [← roundedOnce]
  generalize roundedOnce m e accuracy = r at hhigh hlong ⊢
  generalize target m e = t at hleast hhigh hlong hlt ⊢
  by_cases hfull : r = 2 ^ 53
  · subst hfull
    have htarget : target (2 ^ 53) t = t + 1 := by
      rw [target, Nat.log2_two_pow]
      omega
    rw [shiftToTargetExponent_eq (by omega), if_pos rfl, htarget,
      show (t + 1 - t).toNat = 1 by omega]
    rfl
  · have htarget : target r t = t := target_eq_self (by omega) hleast hlong
    rw [shiftToTargetExponent_eq (by omega), if_neg hfull, htarget,
      show (t - t).toNat = 0 by omega]
    rfl

end

/-! ## Rounding a double -/

/-- Two ways to write a number. -/
theorem eq_mul_two_pow {m n : ℕ} {e f : ℤ} (h : (m : ℚ) * 2 ^ e = n * 2 ^ f) (hef : e ≤ f) :
    m = n * 2 ^ (f - e).toNat := by
  have hpow : (2 : ℚ) ^ f = 2 ^ (f - e).toNat * 2 ^ e := by
    rw [← zpow_natCast, ← zpow_add₀ two_ne_zero, Int.toNat_of_nonneg (by omega)]
    congr 1
    omega
  rw [hpow, ← mul_assoc] at h
  exact_mod_cast mul_right_cancel₀ (zpow_ne_zero e two_ne_zero) h

section
variable {m : ℕ} {e : ℤ}

/-- The bits that rounding shifts out of a double are zero. -/
theorem two_pow_dvd_of_isDouble (hm : 0 < m) (hq : IsDouble ((m : ℚ) * 2 ^ e)) :
    2 ^ (target m e - e).toNat ∣ m := by
  obtain ⟨n, f, hn, hleast, -, hq⟩ := hq
  rw [abs_of_nonneg (by positivity)] at hq
  have hne : m ≠ 0 := Nat.pos_iff_ne_zero.mp hm
  have htarget : target m e = max ((m.log2 : ℤ) + e - 52) (-1074) := rfl
  rcases le_total e f with hef | hfe
  · have hpow := eq_mul_two_pow hq hef
    have hlt : m < 2 ^ (53 + (f - e).toNat) := by
      rw [hpow, pow_add]
      exact Nat.mul_lt_mul_of_pos_right hn (Nat.two_pow_pos _)
    have hlog := (Nat.log2_lt hne).mpr hlt
    have hdvd : 2 ^ (f - e).toNat ∣ m := ⟨n, hpow.trans (mul_comm _ _)⟩
    exact (pow_dvd_pow 2 (by omega)).trans hdvd
  · have hpow := eq_mul_two_pow hq.symm hfe
    have hlt : m < 2 ^ 53 := by
      refine lt_of_le_of_lt ?_ hn
      rw [hpow]
      exact Nat.le_mul_of_pos_right m (Nat.two_pow_pos _)
    have hlog := (Nat.log2_lt hne).mpr hlt
    rw [show (target m e - e).toNat = 0 by omega]
    exact one_dvd m

/-- The exponent of a double in normal form is in range. -/
theorem exponent_le_of_isDouble (hm : e = -1074 ∨ 2 ^ 52 ≤ m) (hq : IsDouble ((m : ℚ) * 2 ^ e)) :
    e ≤ 971 := by
  obtain ⟨n, f, hn, hleast, hf, hq⟩ := hq
  rw [abs_of_nonneg (by positivity)] at hq
  by_contra hlarge
  have hlong : 2 ^ 52 ≤ m := hm.resolve_left (by omega)
  have hpow := eq_mul_two_pow hq.symm (by omega)
  have htwo : 2 ≤ 2 ^ (e - f).toNat := by
    calc 2 = 2 ^ 1 := rfl
      _ ≤ 2 ^ (e - f).toNat := Nat.pow_le_pow_right (by decide) (by omega)
  have hmul : 2 ^ 52 * 2 ≤ n := hpow ▸ Nat.mul_le_mul hlong htwo
  omega

/-- **Rounding a double** gives the double itself. -/
theorem holds_round (hm : 0 < m) (h : e ≤ target m e) (hq : IsDouble ((m : ℚ) * 2 ^ e)) :
    Holds ((m : ℚ) * 2 ^ e) (roundWithAccuracy .binary64 .positive m e .exact) := by
  obtain ⟨hlt, hlong⟩ := shifted_bounds h
  have hdvd := two_pow_dvd_of_isDouble hm hq
  have hleast : -1074 ≤ target m e := le_max_right _ _
  have hrounded : roundedOnce m e .exact = m / 2 ^ (target m e - e).toNat := by
    rw [roundedOnce, ExtendedMantissa.ofMantissaAndAccuracy, shift_of_dvd hdvd]
    rfl
  rw [roundWithAccuracy_eq h, hrounded]
  have hvalue : (m : ℚ) * 2 ^ e =
      (m / 2 ^ (target m e - e).toNat : ℕ) * 2 ^ target m e := by
    rw [Nat.cast_div hdvd (by positivity), Nat.cast_pow, Nat.cast_ofNat, div_mul_eq_mul_div,
      mul_div_assoc, ← zpow_natCast, ← zpow_sub₀ two_ne_zero, Int.toNat_of_nonneg (by omega),
      sub_sub_cancel]
  rw [hvalue] at hq ⊢
  have hpos : m / 2 ^ (target m e - e).toNat ≠ 0 :=
    Nat.pos_iff_ne_zero.mp (Nat.div_pos (Nat.le_of_dvd hm hdvd) (Nat.two_pow_pos _))
  rw [if_neg hlt.ne, dif_neg hpos]
  exact ⟨(target_eq_self hlt hleast hlong).symm, exponent_le_of_isDouble hlong hq, rfl⟩

/-! ## Rounding up to a bound -/

/-- Infinite, or a number in normal form that is at least `2 ^ k`. -/
def AtLeast (k : ℤ) : UnpackedFloat → Prop
  | .infinity .positive => True
  | .finite .positive m e _ => e = target m e ∧ k ≤ m.log2 + e
  | _ => False

theorem AtLeast.cases {k : ℤ} {f : UnpackedFloat} (h : AtLeast k f) :
    f = .infinity .positive ∨
      ∃ m e hm, f = .finite .positive m e hm ∧ e = target m e ∧ k ≤ m.log2 + e := by
  cases f with
  | infinity s =>
    cases s with
    | positive => exact .inl rfl
    | negative => cases h
  | finite s m e hm =>
    cases s with
    | positive => exact .inr ⟨m, e, hm, rfl, h⟩
    | negative => cases h
  | _ => cases h

/-- Rounding does not cross a power of two. -/
theorem atLeast_round (hm : 0 < m) (h : e ≤ target m e) {k : ℤ} (hk : k ≤ m.log2 + e)
    (hleast : -1074 ≤ k) (accuracy : Accuracy) :
    AtLeast k (roundWithAccuracy .binary64 .positive m e accuracy) := by
  obtain ⟨hlt, hlong⟩ := shifted_bounds h
  obtain ⟨hlow, hhigh⟩ := roundedOnce_bounds m e accuracy
  have htarget : target m e = max ((m.log2 : ℤ) + e - 52) (-1074) := rfl
  have hpow : 2 ^ (m.log2 - (target m e - e).toNat) ≤ roundedOnce m e accuracy := by
    refine le_trans ?_ hlow
    rw [Nat.le_div_iff_mul_le (Nat.two_pow_pos _), ← pow_add, Nat.sub_add_cancel (by omega)]
    exact Nat.log2_self_le (Nat.pos_iff_ne_zero.mp hm)
  have hne : roundedOnce m e accuracy ≠ 0 :=
    Nat.pos_iff_ne_zero.mp ((Nat.two_pow_pos _).trans_le hpow)
  have hlog := (Nat.le_log2 hne).mpr hpow
  rw [roundWithAccuracy_eq h]
  by_cases hfull : roundedOnce m e accuracy = 2 ^ 53
  · rw [if_pos hfull]
    have hlog : (2 ^ 52 : ℕ).log2 = 52 := Nat.log2_two_pow
    refine ⟨?_, ?_⟩
    · rw [target_eq_self (by decide) (by omega) (.inr le_rfl)]
    · rw [hlog]
      omega
  · rw [if_neg hfull, dif_neg hne]
    refine ⟨(target_eq_self (by omega) (by omega) (hlong.imp_right hlow.trans')).symm, ?_⟩
    omega

end

/-! ## Packing -/

section
variable {s : Sign} {m : ℕ} {e : ℤ} {hm : 0 < m}

theorem unpack_packedInfinity (s : Sign) :
    UnpackedFloat.unpack .binary64 (packedInfinity .binary64 s) = .infinity s := by
  unfold UnpackedFloat.unpack packedInfinity
  simp only [unpackExponent_packComponents, unpackMantissa_packComponents,
    unpackSign_packComponents, Sign.ofBitVec_toBitVec]
  rfl

/-- The fields of a pattern whose exponent is not all ones. -/
theorem unpack_packComponents (s : Sign) {exponent : BitVec 11} (hexponent : exponent ≠ -1#11)
    (mantissa : BitVec 52) :
    UnpackedFloat.unpack .binary64 (packComponents .binary64 s exponent mantissa) =
      if exponent = 0#11 then
        if h : mantissa = 0#52 then .zero s
        else .finite s mantissa.toNat (-1074) (by
          rw [Nat.pos_iff_ne_zero]
          exact fun hzero => h (BitVec.eq_of_toNat_eq hzero))
      else
        .finite s (2 ^ 52 + mantissa.toNat) (exponent.toNat - 1075) (by positivity) := by
  have hbias : ((Format.binary64.exponentBias : ℕ) : ℤ) = 1023 := rfl
  have hwidth : ((Format.binary64.mantissaBitsWithoutImplicit : ℕ) : ℤ) = 52 := rfl
  have hone : (1#1 ++ mantissa).toNat = 2 ^ 52 + mantissa.toNat := by
    rw [BitVec.toNat_append, BitVec.toNat_ofNat, ← Nat.shiftLeft_add_eq_or_of_lt mantissa.isLt]
    rfl
  unfold UnpackedFloat.unpack
  simp only [unpackExponent_packComponents, unpackMantissa_packComponents,
    unpackSign_packComponents, Sign.ofBitVec_toBitVec, hbias, hwidth, hone]
  rw [if_neg hexponent]
  by_cases hzero : exponent = 0#11
  · rw [if_pos hzero, if_pos hzero]
    subst hzero
    rfl
  · rw [if_neg hzero, if_neg hzero]
    rfl

/-- A double in normal form is what its pattern holds. -/
theorem unpack_pack_finite (h : e = target m e) (he : e ≤ 971) :
    (Float.Model.pack (.finite s m e hm)).unpack = .finite s m e hm := by
  have htarget : target m e = max ((m.log2 : ℤ) + e - 52) (-1074) := rfl
  have hne : m ≠ 0 := Nat.pos_iff_ne_zero.mp hm
  change UnpackedFloat.unpack .binary64 (UnpackedFloat.pack .binary64 (.finite s m e hm)) = _
  have hbias : ((Format.binary64.exponentBias : ℕ) : ℤ) = 1023 := rfl
  have hwidth : Format.binary64.mantissaBitsWithoutImplicit = 52 := rfl
  have hbits : Format.binary64.mantissaBits = 53 := rfl
  have hlow : 2 ^ m.log2 ≤ m := Nat.log2_self_le hne
  have hhigh : m < 2 ^ (m.log2 + 1) := Nat.lt_log2_self
  unfold UnpackedFloat.pack
  dsimp only
  rw [if_neg (by rw [hbias]; omega), hbias, hbits]
  by_cases hlong : m.log2 + 1 = 53
  · have hfield : ((e + 1023 + ((52 : ℕ) : ℤ)).toNat : ℤ) = e + 1075 := by omega
    rw [if_pos hlong]
    generalize (e + 1023 + ((52 : ℕ) : ℤ)).toNat = field at hfield ⊢
    have htoNat : (BitVec.ofNat 11 field).toNat = field := by
      rw [BitVec.toNat_ofNat, Nat.mod_eq_of_lt (by omega)]
    have hones : BitVec.ofNat 11 field ≠ -1#11 := by
      intro heq
      have hfull : field = 2047 := htoNat.symm.trans (congrArg BitVec.toNat heq)
      omega
    have hzeros : BitVec.ofNat 11 field ≠ 0#11 := by
      intro heq
      have hnone : field = 0 := htoNat.symm.trans (congrArg BitVec.toNat heq)
      omega
    rw [unpack_packComponents s hones, if_neg hzeros]
    simp only [htoNat, BitVec.toNat_ofNat, UnpackedFloat.finite.injEq, true_and]
    rw [show m.log2 = 52 by omega] at hlow hhigh
    omega
  · have hshort : m < 2 ^ 52 := hhigh.trans_le (Nat.pow_le_pow_right (by decide) (by omega))
    have htoNat : (BitVec.ofNat 52 m).toNat = m := by
      rw [BitVec.toNat_ofNat, Nat.mod_eq_of_lt hshort]
    have hmantissa : BitVec.ofNat 52 m ≠ 0#52 := fun heq =>
      hne (htoNat.symm.trans (congrArg BitVec.toNat heq))
    rw [if_neg hlong, unpack_packComponents s (by decide), if_pos rfl, dif_neg hmantissa]
    simp only [htoNat, UnpackedFloat.finite.injEq, true_and]
    omega

/-- A double that is too large is packed as infinite. -/
theorem unpack_pack_infinite (he : 971 < e) :
    (Float.Model.pack (.finite s m e hm)).unpack = .infinity s := by
  change UnpackedFloat.unpack .binary64 (UnpackedFloat.pack .binary64 (.finite s m e hm)) = _
  have hbias : ((Format.binary64.exponentBias : ℕ) : ℤ) = 1023 := rfl
  unfold UnpackedFloat.pack
  dsimp only
  rw [if_pos (by rw [hbias]; omega), unpack_packedInfinity]

end

theorem Holds.unpack_pack {q : ℚ} {f : UnpackedFloat} (h : Holds q f) :
    Holds q (Float.Model.pack f).unpack := by
  rcases h.cases with ⟨s, rfl, -⟩ | ⟨m, e, hm, rfl, he, hrange, -⟩
  · rwa [show (Float.Model.pack (.zero s)).unpack = .zero s from unpack_packedZero]
  · rwa [unpack_pack_finite he hrange]

theorem AtLeast.unpack_pack {k : ℤ} {f : UnpackedFloat} (h : AtLeast k f) :
    AtLeast k (Float.Model.pack f).unpack := by
  rcases h.cases with rfl | ⟨m, e, hm, rfl, he, hk⟩
  · rwa [show (Float.Model.pack (.infinity .positive)).unpack = .infinity .positive from
      unpack_packedInfinity .positive]
  · rcases le_or_gt e 971 with hle | hgt
    · rwa [unpack_pack_finite he hle]
    · rw [unpack_pack_infinite hgt]
      trivial

end GeoDrafts.Decimal
