import GeoDrafts.Proofs.Decimal.Whole

/-!
Rounding of numbers that need not be doubles. Two bits behind a significand say where the number
lies between it and the next one, and no shift loses that. So a number is rounded to a double that
is at most half a unit of its last place away.
-/

namespace GeoDrafts.Decimal

open Float.Model
open Float.Model.UnpackedFloat hiding unpack pack

/-! ## The bits behind a significand -/

/-- The part of a unit that an accuracy stands for. -/
def Describes : Accuracy → ℚ → Prop
  | .exact, r => r = 0
  | .inexact .lt, r => 0 < r ∧ r < 1 / 2
  | .inexact .eq, r => r = 1 / 2
  | .inexact .gt, r => 1 / 2 < r ∧ r < 1

theorem describes_exact {m : ℕ} {e : ℤ} : Describes .exact ((m : ℚ) * 2 ^ e / 2 ^ e - m) := by
  have hpow : (2 : ℚ) ^ e ≠ 0 := by positivity
  rw [Describes, mul_div_cancel_right₀ _ hpow, sub_self]

/-- A number lies where a significand and the bits behind it say. -/
def Locates (em : ExtendedMantissa) (q : ℚ) : Prop := Describes em.accuracy (q - em.mantissa)

theorem locates_shiftRightOne {em : ExtendedMantissa} {q : ℚ} (h : Locates em q) :
    Locates em.shiftRightOne (q / 2) := by
  obtain ⟨m, roundBit, stickyBit⟩ := em
  have hm : (m : ℚ) = 2 * (m / 2 : ℕ) + (m % 2 : ℕ) := by exact_mod_cast (Nat.div_add_mod m 2).symm
  unfold Locates at h ⊢
  rcases Nat.mod_two_eq_zero_or_one m with hbit | hbit <;> rw [hbit] at hm <;>
    cases roundBit <;> cases stickyBit <;>
    simp only [ExtendedMantissa.shiftRightOne, ExtendedMantissa.accuracy, Describes, hbit, hm,
      Nat.cast_zero, Nat.cast_one, bne_self_eq_false, Bool.or_false, Bool.or_true,
      Nat.reduceBNe] at h ⊢ <;>
    first | linarith | (constructor <;> linarith)

/-- **Shifting loses nothing** of where the number lies. -/
theorem locates_shift {em : ExtendedMantissa} {q : ℚ} (h : Locates em q) (n : ℕ) :
    Locates (em >>> n) (q / 2 ^ n) := by
  induction n with
  | zero => rwa [pow_zero, div_one]
  | succ n ih =>
    rw [pow_succ, ← div_div]
    exact locates_shiftRightOne ih

theorem abs_sub_roundedMantissa_le {em : ExtendedMantissa} {q : ℚ} (h : Locates em q) :
    |q - em.roundedMantissa| ≤ 1 / 2 := by
  have htie : ((em.mantissa % 2 : ℕ) : ℚ) ≤ 1 := by
    exact_mod_cast Nat.le_of_lt_succ (Nat.mod_lt em.mantissa two_pos)
  have hnonneg : (0 : ℚ) ≤ (em.mantissa % 2 : ℕ) := Nat.cast_nonneg _
  unfold Locates at h
  unfold ExtendedMantissa.roundedMantissa Accuracy.roundToNearestEven
  rw [abs_le]
  split <;> rename_i heq <;> rw [heq] at h <;> simp only [Describes] at h <;> push_cast <;>
    constructor <;> linarith

theorem accuracy_ofMantissaAndAccuracy (m : ℕ) (accuracy : Accuracy) :
    (ExtendedMantissa.ofMantissaAndAccuracy m accuracy).accuracy = accuracy := by
  unfold ExtendedMantissa.ofMantissaAndAccuracy
  split <;> rfl

/-! ## Rounding -/

/-- A double that is at most half a unit of its last place away from a number. Zero is that double
for the smallest numbers; a number above `10 ^ 308` may be too large and is rounded to infinity. -/
def Nears (q : ℚ) : UnpackedFloat → Prop
  | .zero _ => |q| ≤ 2 ^ (-1075 : ℤ)
  | .finite .positive m e _ => e = target m e ∧ |q - m * 2 ^ e| ≤ 2 ^ (e - 1)
  | .infinity .positive => 10 ^ (308 : ℤ) < q
  | _ => False

section
variable {m : ℕ} {e : ℤ} {q : ℚ} {accuracy : Accuracy}

theorem abs_sub_roundedOnce_le (h : e ≤ target m e) (hq : Describes accuracy (q / 2 ^ e - m)) :
    |q - roundedOnce m e accuracy * 2 ^ target m e| ≤ 2 ^ (target m e - 1) := by
  have hpow : (2 : ℚ) ^ target m e = 2 ^ e * 2 ^ (target m e - e).toNat := by
    rw [← zpow_natCast, ← zpow_add₀ two_ne_zero]
    congr 1
    omega
  have hpos : (0 : ℚ) < 2 ^ target m e := by positivity
  have hlocates : Locates (ExtendedMantissa.ofMantissaAndAccuracy m accuracy) (q / 2 ^ e) := by
    rwa [Locates, accuracy_ofMantissaAndAccuracy, mantissa_ofMantissaAndAccuracy]
  have hhalf := abs_sub_roundedMantissa_le (locates_shift hlocates (target m e - e).toNat)
  rw [← roundedOnce, div_div, ← hpow] at hhalf
  calc |q - roundedOnce m e accuracy * 2 ^ target m e|
      = |(q / 2 ^ target m e - roundedOnce m e accuracy) * 2 ^ target m e| := by
        rw [sub_mul, div_mul_cancel₀ q hpos.ne']
    _ = |q / 2 ^ target m e - roundedOnce m e accuracy| * 2 ^ target m e := by
        rw [abs_mul, abs_of_pos hpos]
    _ ≤ 1 / 2 * 2 ^ target m e := by gcongr
    _ = 2 ^ (target m e - 1) := by
        rw [zpow_sub_one₀ two_ne_zero]
        ring

/-- **Rounding** goes to a near double. -/
theorem nears_round (h : e ≤ target m e)
    (hq : Describes accuracy (q / 2 ^ e - m)) :
    Nears q (roundWithAccuracy .binary64 .positive m e accuracy) := by
  obtain ⟨hlt, hlong⟩ := shifted_bounds h
  obtain ⟨hlow, hhigh⟩ := roundedOnce_bounds m e accuracy
  have hleast : -1074 ≤ target m e := le_max_right _ _
  have herror := abs_sub_roundedOnce_le h hq
  replace hlong := hlong.imp_right hlow.trans'
  rw [roundWithAccuracy_eq h]
  by_cases hfull : roundedOnce m e accuracy = 2 ^ 53
  · rw [if_pos hfull]
    have hvalue : ((2 ^ 52 : ℕ) : ℚ) * 2 ^ (target m e + 1) = (2 ^ 53 : ℕ) * 2 ^ target m e := by
      rw [zpow_add_one₀ two_ne_zero]
      norm_num
      ring
    refine ⟨(target_eq_self (by decide) (by omega) (.inr le_rfl)).symm, ?_⟩
    rw [hvalue, ← hfull]
    refine herror.trans ?_
    gcongr <;> [norm_num; omega]
  · rw [if_neg hfull]
    by_cases hzero : roundedOnce m e accuracy = 0
    · rw [dif_pos hzero]
      have hsmallest : target m e = -1074 := hlong.resolve_right (by omega)
      rw [hzero, hsmallest, Nat.cast_zero, zero_mul, sub_zero] at herror
      exact herror
    · rw [dif_neg hzero]
      exact ⟨(target_eq_self (by omega) hleast hlong).symm, herror⟩

end

theorem large_of_exponent {m : ℕ} {e : ℤ} {q : ℚ} (he : e = target m e) (hlarge : 971 < e)
    (hq : |q - m * 2 ^ e| ≤ 2 ^ (e - 1)) : 10 ^ (308 : ℤ) < q := by
  have htarget : target m e = max ((m.log2 : ℤ) + e - 52) (-1074) := rfl
  have hm : m ≠ 0 := by
    rintro rfl
    rw [Nat.log2_zero] at htarget
    omega
  have hlong : ((2 ^ 52 : ℕ) : ℚ) ≤ m := by
    exact_mod_cast (Nat.le_log2 hm).mp (by omega)
  have hhalf : (2 : ℚ) ^ (e - 1) ≤ 2 ^ e := by gcongr <;> [norm_num; omega]
  have hsize : 10 ^ 308 < (3 * 2 ^ 50) * 2 ^ 972 := by decide +kernel
  calc (10 : ℚ) ^ (308 : ℤ) < (3 * 2 ^ 50) * 2 ^ (972 : ℤ) := by exact_mod_cast hsize
    _ ≤ (3 * 2 ^ 50) * 2 ^ e := by gcongr <;> [norm_num; omega]
    _ ≤ (2 ^ 52 : ℕ) * 2 ^ e - 2 ^ e := by
      rw [← sub_one_mul]
      gcongr
      norm_num
    _ ≤ m * 2 ^ e - 2 ^ (e - 1) := by gcongr
    _ ≤ q := by linarith [neg_le_of_abs_le hq]

theorem Nears.unpack_pack {q : ℚ} {f : UnpackedFloat} (h : Nears q f) :
    Nears q (Float.Model.pack f).unpack := by
  cases f with
  | zero s => rwa [show (Float.Model.pack (.zero s)).unpack = .zero s from unpack_packedZero]
  | infinity s =>
    cases s with
    | positive =>
      rwa [show (Float.Model.pack (.infinity .positive)).unpack = .infinity .positive from
        unpack_packedInfinity .positive]
    | negative => cases h
  | finite s m e hm =>
    cases s with
    | positive =>
      rcases le_or_gt e 971 with hle | hgt
      · rwa [unpack_pack_finite h.1 hle]
      · rw [unpack_pack_infinite hgt]
        exact large_of_exponent h.1 hgt h.2
    | negative => cases h
  | _ => cases h

/-! ## Products and quotients -/

section
variable {a b : ℚ} {f g : UnpackedFloat}

theorem nears_zero (s : Sign) : Nears 0 (.zero s) := by
  rw [Nears, abs_zero]
  positivity

theorem nears_mul (hf : Holds a f) (hg : Holds b g) :
    Nears (a * b) (UnpackedFloat.mul .binary64 f g) := by
  rcases mul_cases hf hg with ⟨s, hzero, hvalue⟩ | ⟨m, e, -, hvalue, htarget, hround⟩
  · rw [hzero, hvalue]
    exact nears_zero s
  · rw [hround, hvalue]
    exact nears_round htarget describes_exact

/-- The remainder of a division says where the quotient lies. -/
theorem describes_accuracyOfFraction {d n : ℕ} (hn : 0 < n) :
    Describes (accuracyOfFraction (d % n) n) ((d : ℚ) / n - (d / n : ℕ)) := by
  have hn' : (0 : ℚ) < n := Nat.cast_pos.mpr hn
  have hrest : (d : ℚ) / n - (d / n : ℕ) = (d % n : ℕ) / n := by
    have hd : (d : ℚ) = n * (d / n : ℕ) + (d % n : ℕ) := by
      exact_mod_cast (Nat.div_add_mod d n).symm
    rw [sub_eq_iff_eq_add, div_eq_iff hn'.ne', hd]
    field_simp
    ring
  have hlt : ((d % n : ℕ) : ℚ) < n := Nat.cast_lt.mpr (Nat.mod_lt d hn)
  rw [hrest]
  generalize d % n = r at hlt
  unfold accuracyOfFraction
  split
  · rename_i hzero
    rw [Describes, hzero, Nat.cast_zero, zero_div]
  · rename_i hpos
    have hr : (0 : ℚ) < r := Nat.cast_pos.mpr (Nat.pos_of_ne_zero hpos)
    cases hcompare : compare (2 * r) n with
    | lt =>
      have hhalf : (2 : ℚ) * r < n := by exact_mod_cast Nat.compare_eq_lt.mp hcompare
      exact ⟨by positivity, by rw [div_lt_div_iff₀ hn' two_pos]; linarith⟩
    | eq =>
      have hhalf : (2 : ℚ) * r = n := by exact_mod_cast Nat.compare_eq_eq.mp hcompare
      rw [Describes, div_eq_div_iff hn'.ne' two_ne_zero]
      linarith
    | gt =>
      have hhalf : (n : ℚ) < 2 * r := by exact_mod_cast Nat.compare_eq_gt.mp hcompare
      exact ⟨by rw [div_lt_div_iff₀ two_pos hn']; linarith, (div_lt_one hn').mpr hlt⟩

theorem nears_divCore {m n : ℕ} (hm : 0 < m) (hn : 0 < n) (e k : ℤ) :
    Nears ((m : ℚ) * 2 ^ e / (n * 2 ^ k))
      (roundWithAccuracy .binary64 .positive (divCore .binary64 m e n k).1
        (divCore .binary64 m e n k).2.1 (divCore .binary64 m e n k).2.2) := by
  obtain ⟨d, t, heq, -, hvalue, hlong⟩ := divCore_eq hm hn e k
  have hscaled : (d : ℚ) * 2 ^ t / n / 2 ^ t = d / n := by
    have hpow : (2 : ℚ) ^ t ≠ 0 := by positivity
    rw [div_right_comm, mul_div_cancel_right₀ _ hpow]
  rw [heq, hvalue]
  refine nears_round (le_target_div hn hlong) ?_
  rw [hscaled]
  exact describes_accuracyOfFraction hn

theorem nears_div (hf : Holds a f) (hg : Holds b g) (hb : b ≠ 0) :
    Nears (a / b) (UnpackedFloat.div .binary64 f g) := by
  rcases div_cases hf hg hb with ⟨s, hzero, hvalue⟩ | ⟨m, n, e, k, hm, hn, hvalue, hround⟩
  · rw [hzero, hvalue]
    exact nears_zero s
  · rw [hround, hvalue]
    exact nears_divCore hm hn e k

end

/-! ## Digits and an exponent -/

/-- Digits far behind the point are rounded to zero. -/
theorem nears_zero_of_small {m : ℕ} {e k : ℤ} (hm : (m : ℚ) < 10 ^ k) (h : k + e ≤ -330)
    (s : Sign) : Nears ((m : ℚ) * 10 ^ e) (.zero s) := by
  have hsmall : (10 : ℚ) ^ (-330 : ℤ) ≤ 2 ^ (-1075 : ℤ) := by
    have hle : 2 ^ 1075 ≤ 10 ^ 330 := by decide +kernel
    rw [zpow_neg, zpow_neg]
    refine inv_anti₀ (by positivity) ?_
    exact_mod_cast hle
  rw [Nears, abs_of_nonneg (by positivity)]
  calc (m : ℚ) * 10 ^ e ≤ 10 ^ k * 10 ^ e := by gcongr
    _ = 10 ^ (k + e) := (zpow_add₀ (by norm_num) k e).symm
    _ ≤ 10 ^ (-330 : ℤ) := by gcongr; norm_num
    _ ≤ 2 ^ (-1075 : ℤ) := hsmall

/-- Digits far before the point are rounded to infinity. -/
theorem nears_infinity_of_large {m : ℕ} {e k : ℤ} (hm : 10 ^ k ≤ (m : ℚ)) (h : 309 ≤ k + e) :
    Nears ((m : ℚ) * 10 ^ e) (.infinity .positive) := by
  have hlt : (10 : ℚ) ^ (308 : ℤ) < 10 ^ (309 : ℤ) := by gcongr <;> norm_num
  exact hlt.trans_le (le_mul_power hm h)

theorem nears_unpackedOfScientific (m : ℕ) (e : ℤ) :
    Nears ((m : ℚ) * 10 ^ e) (UnpackedFloat.ofScientific .binary64 m e) := by
  have hbits : Format.binary64.mantissaBits = 53 := rfl
  have hexponentBits : Format.binary64.exponentBits = 11 := rfl
  unfold UnpackedFloat.ofScientific
  by_cases hzero : m = 0
  · rw [dif_pos hzero, hzero, Nat.cast_zero, zero_mul]
    exact nears_zero _
  have hpos : 0 < m := Nat.pos_of_ne_zero hzero
  rw [dif_neg hzero, hexponentBits]
  split
  · rename_i hlarge
    have hone : (10 : ℚ) ^ (0 : ℤ) ≤ m := by exact_mod_cast hpos
    exact nears_infinity_of_large hone (by omega)
  split
  · rename_i hsmall
    exact nears_zero_of_small (lt_ten_pow_log2 m) (by omega) _
  split
  · rename_i hnonneg
    obtain ⟨k, rfl⟩ := Int.eq_ofNat_of_zero_le hnonneg
    unfold UnpackedFloat.mul
    dsimp only
    rw [hbits, Nat.shiftLeft_eq, Int.toNat_natCast, power_value]
    exact nears_round (le_target_power hpos k) describes_exact
  · rename_i hneg
    unfold UnpackedFloat.div
    dsimp only
    rw [quotient_value (not_le.mp hneg)]
    exact nears_divCore hpos (by positivity) 0 0

theorem nears_ofScientific (m : ℕ) (negative : Bool) (e : ℕ) :
    Nears ((m : ℚ) * 10 ^ (if negative then -(e : ℤ) else e))
      (Float.ofScientific m negative e).toModel.unpack := by
  unfold Float.ofScientific
  by_cases hfast : m < 2 ^ 53 ∧ e ≤ 22
  · rw [dif_pos hfast]
    have hsize : e < Float.exactlyRepresentablePowersOfTen.size := Nat.lt_succ_of_le hfast.2
    have hm := holds_toFloat hfast.1
    have hpower := holds_power ⟨e, hsize⟩
    dsimp only at hpower ⊢
    cases negative with
    | true =>
      rw [if_pos rfl, zpow_neg, zpow_natCast, ← div_eq_mul_inv]
      exact (nears_div hm hpower (by positivity)).unpack_pack
    | false =>
      rw [if_neg (by decide), zpow_natCast]
      exact (nears_mul hm hpower).unpack_pack
  · rw [dif_neg hfast]
    cases negative with
    | true => exact (nears_unpackedOfScientific m (-e)).unpack_pack
    | false => exact (nears_unpackedOfScientific m e).unpack_pack

/-- **Reading digits.** Any digits are read as a near double. -/
theorem nears_nearest (digits : ℕ) (e : ℤ) :
    Nears ((digits : ℚ) * 10 ^ e) (nearest digits e).toModel.unpack := by
  have hinfinite : (1.0 / 0.0 : Float).toModel.unpack = .infinity .positive := by rfl
  have hnone : (0.0 : Float).toModel.unpack = .zero .positive := by rfl
  unfold nearest
  by_cases hzero : digits = 0
  · rw [if_pos hzero, hzero, Nat.cast_zero, zero_mul, hnone]
    exact nears_zero _
  have hmagnitude : ((toString digits).length : ℤ) = digits.repr.length := rfl
  obtain ⟨hlow, hhigh⟩ := repr_bounds (Nat.pos_of_ne_zero hzero)
  rw [if_neg hzero, hmagnitude]
  dsimp only
  split
  · rw [hinfinite]
    exact nears_infinity_of_large hlow (by omega)
  split
  · rw [hnone]
    exact nears_zero_of_small hhigh (by omega) _
  · have hscientific := nears_ofScientific digits (decide (e < 0)) e.natAbs
    rwa [signed_natAbs] at hscientific

end GeoDrafts.Decimal
