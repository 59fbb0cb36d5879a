import GeoDrafts.Decimal.Reading
import GeoDrafts.Proofs.Decimal.Rounding

/-!
Numbers that digits denote. If such a number is a double, it is read as that double, whether the
digits are multiplied or divided by a power of ten.
-/

namespace GeoDrafts.Decimal

open Float.Model
open Float.Model.UnpackedFloat hiding unpack pack

/-! ## Products and quotients -/

section
variable {a b : ℚ} {f g : UnpackedFloat}

theorem log2_add_log2_le {m n : ℕ} (hm : 0 < m) (hn : 0 < n) :
    m.log2 + n.log2 ≤ (m * n).log2 := by
  rw [Nat.le_log2 (Nat.mul_pos hm hn).ne', pow_add]
  exact Nat.mul_le_mul (Nat.log2_self_le hm.ne') (Nat.log2_self_le hn.ne')

/-- A product of numbers in normal form has bits enough to be rounded. -/
theorem le_target_mul {m n : ℕ} {e k : ℤ} (hm : 0 < m) (hn : 0 < n) (he : e = target m e)
    (hk : k = target n k) : e + k ≤ target (m * n) (e + k) := by
  have hlog := log2_add_log2_le hm hn
  have htarget : target (m * n) (e + k) =
      max (((m * n).log2 : ℤ) + (e + k) - 52) (-1074) := rfl
  have htarget' : target m e = max ((m.log2 : ℤ) + e - 52) (-1074) := rfl
  have htarget'' : target n k = max ((n.log2 : ℤ) + k - 52) (-1074) := rfl
  omega

/-- A product is zero, or the product of the significands is rounded once. -/
theorem mul_cases (hf : Holds a f) (hg : Holds b g) :
    (∃ s, UnpackedFloat.mul .binary64 f g = .zero s ∧ a * b = 0) ∨
      ∃ (m : ℕ) (e : ℤ), 0 < m ∧ a * b = m * 2 ^ e ∧ e ≤ target m e ∧
        UnpackedFloat.mul .binary64 f g = roundWithAccuracy .binary64 .positive m e .exact := by
  rcases hf.cases with ⟨s, rfl, rfl⟩ | ⟨m, e, hm, rfl, he, -, rfl⟩
  · rcases hg.cases with ⟨s', rfl, -⟩ | ⟨n, k, hn, rfl, -⟩
    · exact .inl ⟨_, rfl, zero_mul b⟩
    · exact .inl ⟨_, rfl, zero_mul b⟩
  · rcases hg.cases with ⟨s', rfl, rfl⟩ | ⟨n, k, hn, rfl, hk, -, rfl⟩
    · exact .inl ⟨_, rfl, mul_zero _⟩
    · refine .inr ⟨m * n, e + k, Nat.mul_pos hm hn, ?_, le_target_mul hm hn he hk, rfl⟩
      rw [zpow_add₀ two_ne_zero, Nat.cast_mul]
      ring

theorem holds_mul (hf : Holds a f) (hg : Holds b g) (hq : IsDouble (a * b)) :
    Holds (a * b) (UnpackedFloat.mul .binary64 f g) := by
  rcases mul_cases hf hg with ⟨s, hzero, hvalue⟩ | ⟨m, e, hm, hvalue, htarget, hround⟩
  · rw [hzero]
    exact hvalue
  · rw [hvalue] at hq ⊢
    rw [hround]
    exact holds_round hm htarget hq

end

/-- A quotient that is a double has no remainder if the dividend is long enough. -/
theorem dvd_of_isDouble_div {m n : ℕ} (hn : 0 < n) {t : ℤ}
    (hlong : t ≤ -1074 ∨ 2 ^ (n.log2 + 53) ≤ m)
    (hq : IsDouble ((m : ℚ) * 2 ^ t / n)) : n ∣ m := by
  obtain ⟨j, f, hj, hleast, -, hq⟩ := hq
  rw [abs_of_nonneg (by positivity), div_eq_iff (by positivity)] at hq
  have hproduct : (m : ℚ) * 2 ^ t = (j * n : ℕ) * 2 ^ f := by
    rw [hq, Nat.cast_mul]
    ring
  rcases le_or_gt t f with htf | hft
  · rw [eq_mul_two_pow hproduct htf, mul_assoc]
    exact (dvd_mul_right n _).mul_left j
  · exfalso
    have hle : 2 ^ (n.log2 + 53) ≤ m := hlong.resolve_left (by omega)
    have hpow := eq_mul_two_pow hproduct.symm hft.le
    have htwo : 2 ≤ 2 ^ (t - f).toNat := Nat.le_self_pow (by omega) 2
    have hlow : 2 ^ (n.log2 + 53) * 2 ≤ j * n := by
      rw [hpow]
      exact Nat.mul_le_mul hle htwo
    have hhigh : j * n < 2 ^ 53 * 2 ^ (n.log2 + 1) :=
      Nat.mul_lt_mul_of_lt_of_lt hj Nat.lt_log2_self
    have heq : 2 ^ (n.log2 + 53) * 2 = 2 ^ 53 * 2 ^ (n.log2 + 1) := by ring
    omega

/-- The dividend is shifted until the quotient has bits enough to be rounded. -/
theorem divCore_eq {m n : ℕ} (hm : 0 < m) (hn : 0 < n) (e k : ℤ) :
    ∃ (d : ℕ) (t : ℤ),
      divCore .binary64 m e n k = (d / n, t, accuracyOfFraction (d % n) n) ∧ 0 < d ∧
      (m : ℚ) * 2 ^ e / (n * 2 ^ k) = d * 2 ^ t / n ∧
      (t ≤ -1074 ∨ 2 ^ (n.log2 + 53) ≤ d) := by
  have htarget : Format.binary64.targetExponent (totalExponent m e - totalExponent n k) =
      max ((m.log2 : ℤ) + e - n.log2 - k - 53) (-1074) := by
    change max ((m.log2 : ℤ) + 1 + e - (n.log2 + 1 + k) - 53) (-1074) = _
    omega
  unfold divCore
  rw [htarget]
  dsimp only
  generalize ht : min (e - k) (max ((m.log2 : ℤ) + e - n.log2 - k - 53) (-1074)) = t
  generalize hs : (e - k - t).toNat = s
  rw [Nat.shiftLeft_eq]
  refine ⟨m * 2 ^ s, t, rfl, by positivity, ?_, ?_⟩
  · have hshift : (2 : ℚ) ^ e = 2 ^ s * 2 ^ t * 2 ^ k := by
      rw [← zpow_natCast, ← zpow_add₀ two_ne_zero, ← zpow_add₀ two_ne_zero]
      congr 1
      omega
    have hn' : (n : ℚ) ≠ 0 := Nat.cast_ne_zero.mpr hn.ne'
    rw [hshift, Nat.cast_mul, Nat.cast_pow, Nat.cast_ofNat]
    field_simp
  · rcases le_or_gt t (-1074) with hsmall | hlarge
    · exact .inl hsmall
    · refine .inr ?_
      calc 2 ^ (n.log2 + 53) ≤ 2 ^ (m.log2 + s) := Nat.pow_le_pow_right (by decide) (by omega)
        _ = 2 ^ m.log2 * 2 ^ s := pow_add ..
        _ ≤ m * 2 ^ s := Nat.mul_le_mul_right _ (Nat.log2_self_le hm.ne')

/-- A long dividend leaves a quotient of 53 bits. -/
theorem le_target_div {d n : ℕ} (hn : 0 < n) {t : ℤ}
    (hlong : t ≤ -1074 ∨ 2 ^ (n.log2 + 53) ≤ d) : t ≤ target (d / n) t := by
  rcases hlong with hsmall | hlong
  · exact hsmall.trans (le_max_right _ _)
  · have hquotient : 2 ^ 52 ≤ d / n := by
      rw [Nat.le_div_iff_mul_le hn]
      calc 2 ^ 52 * n ≤ 2 ^ 52 * 2 ^ (n.log2 + 1) := Nat.mul_le_mul_left _ Nat.lt_log2_self.le
        _ = 2 ^ (n.log2 + 53) := by ring
        _ ≤ d := hlong
    have hne : d / n ≠ 0 := ((Nat.two_pow_pos 52).trans_le hquotient).ne'
    have hlog := (Nat.le_log2 hne).mpr hquotient
    exact le_max_of_le_left (by omega)

/-- A quotient that is a double is rounded to itself. -/
theorem holds_divCore {m n : ℕ} (hm : 0 < m) (hn : 0 < n) {e k : ℤ}
    (hq : IsDouble ((m : ℚ) * 2 ^ e / (n * 2 ^ k))) :
    Holds ((m : ℚ) * 2 ^ e / (n * 2 ^ k))
      (roundWithAccuracy .binary64 .positive (divCore .binary64 m e n k).1
        (divCore .binary64 m e n k).2.1 (divCore .binary64 m e n k).2.2) := by
  obtain ⟨d, t, heq, hd, hvalue, hlong⟩ := divCore_eq hm hn e k
  rw [heq, hvalue]
  rw [hvalue] at hq
  have hdvd := dvd_of_isDouble_div hn hlong hq
  have hquotient : (d : ℚ) * 2 ^ t / n = (d / n : ℕ) * 2 ^ t := by
    rw [Nat.cast_div hdvd (Nat.cast_ne_zero.mpr hn.ne')]
    ring
  rw [hquotient] at hq ⊢
  rw [Nat.mod_eq_zero_of_dvd hdvd]
  exact holds_round (Nat.div_pos (Nat.le_of_dvd hd hdvd) hn) (le_target_div hn hlong) hq

theorem div_cases {a b : ℚ} {f g : UnpackedFloat} (hf : Holds a f) (hg : Holds b g) (hb : b ≠ 0) :
    (∃ s, UnpackedFloat.div .binary64 f g = .zero s ∧ a / b = 0) ∨
      ∃ (m n : ℕ) (e k : ℤ), 0 < m ∧ 0 < n ∧ a / b = m * 2 ^ e / (n * 2 ^ k) ∧
        UnpackedFloat.div .binary64 f g =
          roundWithAccuracy .binary64 .positive (divCore .binary64 m e n k).1
            (divCore .binary64 m e n k).2.1 (divCore .binary64 m e n k).2.2 := by
  obtain ⟨n, k, hn, rfl, -, rfl⟩ := hg.exists_finite hb
  rcases hf.cases with ⟨s, rfl, rfl⟩ | ⟨m, e, hm, rfl, -, -, rfl⟩
  · exact .inl ⟨_, rfl, zero_div _⟩
  · exact .inr ⟨m, n, e, k, hm, hn, rfl, rfl⟩

theorem holds_div {a b : ℚ} {f g : UnpackedFloat} (hf : Holds a f) (hg : Holds b g) (hb : b ≠ 0)
    (hq : IsDouble (a / b)) : Holds (a / b) (UnpackedFloat.div .binary64 f g) := by
  rcases div_cases hf hg hb with ⟨s, hzero, hvalue⟩ | ⟨m, n, e, k, hm, hn, hvalue, hround⟩
  · rw [hzero]
    exact hvalue
  · rw [hvalue] at hq ⊢
    rw [hround]
    exact holds_divCore hm hn hq

/-! ## Whole numbers -/

theorem isDouble_zero : IsDouble 0 := ⟨0, 0, by decide, by decide, by decide, by simp⟩

theorem isDouble_of_lt {n : ℕ} (hn : n < 2 ^ 53) : IsDouble n :=
  ⟨n, 0, hn, by decide, by decide, by simp⟩

/-- A significand is filled up with zeros before it is rounded. -/
theorem exists_normalize_eq {m : ℕ} (hm : 0 < m) (e : ℤ) (s : Sign) :
    ∃ (n : ℕ) (k : ℤ), 0 < n ∧ (m : ℚ) * 2 ^ e = n * 2 ^ k ∧ k ≤ target n k ∧
      UnpackedFloat.normalize .binary64 m e s = roundWithAccuracy .binary64 .positive n k .exact := by
  have hpos : compare (m : ℤ) 0 = .gt := Int.compare_eq_gt.mpr (by omega)
  unfold UnpackedFloat.normalize
  rw [hpos]
  dsimp only
  unfold UnpackedFloat.round decreaseExponent
  rw [Int.toNat_natCast, targetExponent_eq]
  dsimp only
  generalize hs : (e - target m e).toNat = s
  rw [Nat.shiftLeft_eq]
  have hlog := log2_add_log2_le hm (Nat.two_pow_pos s)
  rw [Nat.log2_two_pow] at hlog
  have htarget : target m e = max ((m.log2 : ℤ) + e - 52) (-1074) := rfl
  have htarget' : target (m * 2 ^ s) (e - s) =
      max (((m * 2 ^ s).log2 : ℤ) + (e - s) - 52) (-1074) := rfl
  refine ⟨m * 2 ^ s, e - s, by positivity, ?_, by omega, rfl⟩
  rw [zpow_sub₀ two_ne_zero, zpow_natCast, Nat.cast_mul, Nat.cast_pow, Nat.cast_ofNat]
  field_simp

theorem holds_ofNat {n : ℕ} (hq : IsDouble n) :
    Holds n (UnpackedFloat.ofNat .binary64 n) := by
  change Holds n (UnpackedFloat.normalize .binary64 n 0 .positive)
  rcases Nat.eq_zero_or_pos n with rfl | hn
  · exact Nat.cast_zero
  · obtain ⟨m, k, hm, hvalue, htarget, hround⟩ := exists_normalize_eq hn 0 .positive
    rw [zpow_zero, mul_one] at hvalue
    rw [hround, hvalue]
    exact holds_round hm htarget (hvalue ▸ hq)

theorem holds_toFloat {n : ℕ} (hn : n < 2 ^ 53) : Holds n n.toUInt64.toFloat.toModel.unpack := by
  have hword : n.toUInt64.toNat = n := UInt64.toNat_ofNat_of_lt' (hn.trans (by decide))
  have hsize : Holds n (UnpackedFloat.ofNat .binary64 n.toUInt64.toNat) := by
    rw [hword]
    exact holds_ofNat (isDouble_of_lt hn)
  exact hsize.unpack_pack

/-- A whole number as a significand and an exponent of any sign. -/
theorem natCast_eq_iff {n m : ℕ} {e : ℤ} :
    (n : ℚ) = m * 2 ^ e ↔ m * 2 ^ e.toNat = n * 2 ^ (-e).toNat := by
  have hpow : (2 : ℚ) ^ e.toNat = 2 ^ e * 2 ^ (-e).toNat := by
    rw [← zpow_natCast, ← zpow_natCast, ← zpow_add₀ two_ne_zero]
    congr 1
    omega
  have hpos : (2 : ℚ) ^ (-e).toNat ≠ 0 := by positivity
  rw [← Nat.cast_inj (R := ℚ), Nat.cast_mul, Nat.cast_mul, Nat.cast_pow, Nat.cast_pow,
    Nat.cast_ofNat, hpow, ← mul_assoc, mul_left_inj' hpos, eq_comm]

/-! ## Powers of ten -/

/-- The double in normal form of a natural number that is not zero, in whole numbers only. -/
def holdsNatural (n : ℕ) : UnpackedFloat → Bool
  | .finite .positive m e _ => e = target m e ∧ e ≤ 971 ∧ m * 2 ^ e.toNat = n * 2 ^ (-e).toNat
  | _ => false

theorem holds_of_holdsNatural {n : ℕ} {f : UnpackedFloat} (h : holdsNatural n f = true) :
    Holds n f := by
  cases f with
  | finite s m e hm =>
    cases s with
    | positive =>
      obtain ⟨hnormal, hrange, hvalue⟩ := of_decide_eq_true h
      exact ⟨hnormal, hrange, natCast_eq_iff.mpr hvalue⟩
    | negative => cases h
  | _ => cases h

/-- The powers of ten that are read off a table. -/
theorem holds_power (i : Fin Float.exactlyRepresentablePowersOfTen.size) :
    Holds (10 ^ (i : ℕ)) (Float.exactlyRepresentablePowersOfTen[i]).toModel.unpack := by
  have hall : ∀ i : Fin Float.exactlyRepresentablePowersOfTen.size,
      holdsNatural (10 ^ (i : ℕ)) (Float.exactlyRepresentablePowersOfTen[i]).toModel.unpack := by
    decide +kernel
  exact_mod_cast holds_of_holdsNatural (hall i)

theorem IsDouble.abs_lt {q : ℚ} (h : IsDouble q) : |q| < 10 ^ (310 : ℤ) := by
  obtain ⟨m, e, hm, -, he, hq⟩ := h
  have hm' : (m : ℚ) < 2 ^ (53 : ℕ) := by exact_mod_cast hm
  calc |q| = m * 2 ^ e := hq
    _ ≤ m * 2 ^ (971 : ℤ) := by gcongr; norm_num
    _ ≤ 2 ^ (53 : ℕ) * 2 ^ (971 : ℤ) := by gcongr
    _ < 10 ^ (310 : ℤ) := by
      have hlt : 2 ^ 53 * 2 ^ 971 < 10 ^ 310 := by decide +kernel
      exact_mod_cast hlt

theorem IsDouble.le_abs {q : ℚ} (h : IsDouble q) (hne : q ≠ 0) : 10 ^ (-330 : ℤ) ≤ |q| := by
  obtain ⟨m, e, hm, hleast, he, hq⟩ := h
  have hm' : (1 : ℚ) ≤ m := by
    have hm0 : m ≠ 0 := by
      rintro rfl
      rw [Nat.cast_zero, zero_mul, abs_eq_zero] at hq
      exact hne hq
    exact_mod_cast Nat.one_le_iff_ne_zero.mpr hm0
  calc (10 : ℚ) ^ (-330 : ℤ) ≤ 2 ^ (-1074 : ℤ) := by
        have hle : 2 ^ 1074 ≤ 10 ^ 330 := by decide +kernel
        rw [zpow_neg, zpow_neg]
        refine inv_anti₀ (by positivity) ?_
        exact_mod_cast hle
    _ ≤ 2 ^ e := by gcongr; norm_num
    _ ≤ m * 2 ^ e := le_mul_of_one_le_left (by positivity) hm'
    _ = |q| := hq.symm

theorem le_mul_power {m : ℕ} {e k j : ℤ} (hm : 10 ^ k ≤ (m : ℚ)) (h : j ≤ k + e) :
    10 ^ j ≤ (m : ℚ) * 10 ^ e :=
  calc (10 : ℚ) ^ j ≤ 10 ^ (k + e) := by gcongr; norm_num
    _ = 10 ^ k * 10 ^ e := zpow_add₀ (by norm_num) k e
    _ ≤ m * 10 ^ e := by gcongr

/-- No double is far above or far below the digits that denote it. -/
theorem not_isDouble_of_large {m : ℕ} {e k : ℤ} (hm : 10 ^ k ≤ (m : ℚ)) (h : 310 ≤ k + e) :
    ¬ IsDouble ((m : ℚ) * 10 ^ e) := by
  intro hq
  have hlt := hq.abs_lt
  rw [abs_of_nonneg (by positivity)] at hlt
  exact absurd hlt (not_lt.mpr (le_mul_power hm h))

theorem not_isDouble_of_small {m : ℕ} (hpos : 0 < m) {e k : ℤ} (hm : (m : ℚ) < 10 ^ k)
    (h : k + e ≤ -330) : ¬ IsDouble ((m : ℚ) * 10 ^ e) := by
  intro hq
  have hle := hq.le_abs (by positivity)
  rw [abs_of_nonneg (by positivity)] at hle
  refine absurd hle (not_le.mpr ?_)
  calc (m : ℚ) * 10 ^ e < 10 ^ k * 10 ^ e := by gcongr
    _ = 10 ^ (k + e) := (zpow_add₀ (by norm_num) k e).symm
    _ ≤ 10 ^ (-330 : ℤ) := by gcongr; norm_num

/-! ## Digits and an exponent -/

theorem power_value (m k : ℕ) :
    (m : ℚ) * 10 ^ (k : ℤ) = (m * 2 ^ 53 * 10 ^ k : ℕ) * 2 ^ (-53 + 0 : ℤ) := by
  rw [zpow_natCast, Nat.cast_mul, Nat.cast_mul, Nat.cast_pow, Nat.cast_pow, Nat.cast_ofNat]
  norm_num
  ring

theorem quotient_value {m : ℕ} {e : ℤ} (he : e < 0) :
    (m : ℚ) * 10 ^ e = m * 2 ^ (0 : ℤ) / ((10 ^ (-e).toNat : ℕ) * 2 ^ (0 : ℤ)) := by
  rw [zpow_zero, mul_one, mul_one, Nat.cast_pow, Nat.cast_ofNat, ← zpow_natCast,
    Int.toNat_of_nonneg (by omega), zpow_neg, div_inv_eq_mul]

theorem lt_ten_pow_log2 (m : ℕ) : (m : ℚ) < 10 ^ ((m.log2 + 1 : ℕ) : ℤ) := by
  rw [zpow_natCast]
  exact_mod_cast Nat.lt_log2_self.trans_le (Nat.pow_le_pow_left (by decide) _)

/-- A product with a power of ten has bits enough to be rounded. -/
theorem le_target_power {m : ℕ} (hpos : 0 < m) (k : ℕ) :
    (-53 + 0 : ℤ) ≤ target (m * 2 ^ 53 * 10 ^ k) (-53 + 0) := by
  have hlog : 53 ≤ (m * 2 ^ 53 * 10 ^ k).log2 := by
    rw [Nat.le_log2 (by positivity)]
    calc 2 ^ 53 ≤ m * 2 ^ 53 := Nat.le_mul_of_pos_left _ hpos
      _ ≤ m * 2 ^ 53 * 10 ^ k := Nat.le_mul_of_pos_right _ (by positivity)
  exact le_max_of_le_left (by omega)

theorem holds_unpackedOfScientific {m : ℕ} {e : ℤ} (hq : IsDouble ((m : ℚ) * 10 ^ e)) :
    Holds ((m : ℚ) * 10 ^ e) (UnpackedFloat.ofScientific .binary64 m e) := by
  have hbits : Format.binary64.mantissaBits = 53 := rfl
  have hexponentBits : Format.binary64.exponentBits = 11 := rfl
  unfold UnpackedFloat.ofScientific
  by_cases hzero : m = 0
  · rw [dif_pos hzero, hzero, Nat.cast_zero, zero_mul]
    rfl
  have hpos : 0 < m := Nat.pos_of_ne_zero hzero
  have hlarge : ¬ e > 2 ^ Format.binary64.exponentBits := by
    rw [hexponentBits]
    intro he
    have hone : (10 : ℚ) ^ (0 : ℤ) ≤ m := by exact_mod_cast hpos
    exact not_isDouble_of_large hone (by omega) hq
  have hsmall : ¬ e < -((2 ^ Format.binary64.exponentBits : ℤ) + m.log2) := by
    rw [hexponentBits]
    intro he
    exact not_isDouble_of_small hpos (lt_ten_pow_log2 m) (by omega) hq
  rw [dif_neg hzero, if_neg hlarge, if_neg hsmall]
  by_cases hnonneg : 0 ≤ e
  · obtain ⟨k, rfl⟩ := Int.eq_ofNat_of_zero_le hnonneg
    rw [if_pos hnonneg]
    unfold UnpackedFloat.mul
    dsimp only
    rw [power_value] at hq ⊢
    rw [hbits, Nat.shiftLeft_eq, Int.toNat_natCast]
    exact holds_round (by positivity) (le_target_power hpos k) hq
  · rw [if_neg hnonneg]
    unfold UnpackedFloat.div
    dsimp only
    rw [quotient_value (not_le.mp hnonneg)] at hq ⊢
    exact holds_divCore hpos (by positivity) hq

/-- The digits times a power of ten, of which the standard library makes a double. -/
theorem holds_ofScientific (m : ℕ) (negative : Bool) (e : ℕ)
    (hq : IsDouble ((m : ℚ) * 10 ^ (if negative then -(e : ℤ) else e))) :
    Holds ((m : ℚ) * 10 ^ (if negative then -(e : ℤ) else e))
      (Float.ofScientific m negative e).toModel.unpack := by
  unfold Float.ofScientific
  by_cases hfast : m < 2 ^ 53 ∧ e ≤ 22
  · rw [dif_pos hfast]
    have hsize : e < Float.exactlyRepresentablePowersOfTen.size := Nat.lt_succ_of_le hfast.2
    have hm := holds_toFloat hfast.1
    have hpower := holds_power ⟨e, hsize⟩
    dsimp only at hpower ⊢
    cases negative with
    | true =>
      have hvalue : (m : ℚ) * 10 ^ (-(e : ℤ)) = m / 10 ^ e := by
        rw [zpow_neg, zpow_natCast, div_eq_mul_inv]
      rw [if_pos rfl, hvalue] at hq ⊢
      exact (holds_div hm hpower (by positivity) hq).unpack_pack
    | false =>
      rw [if_neg (by decide), zpow_natCast] at hq ⊢
      exact (holds_mul hm hpower hq).unpack_pack
  · rw [dif_neg hfast]
    cases negative with
    | true => exact (holds_unpackedOfScientific hq).unpack_pack
    | false => exact (holds_unpackedOfScientific hq).unpack_pack

/-- The number of digits tells how large a number is. -/
theorem repr_bounds {digits : ℕ} (hpos : 0 < digits) :
    (10 : ℚ) ^ ((digits.repr.length - 1 : ℕ) : ℤ) ≤ digits ∧
      (digits : ℚ) < 10 ^ (digits.repr.length : ℤ) := by
  have hlength : 0 < digits.repr.length := Nat.length_repr_pos
  rw [zpow_natCast, zpow_natCast]
  refine ⟨?_, by exact_mod_cast (Nat.length_repr_le_iff hlength).mp le_rfl⟩
  rcases Nat.eq_zero_or_pos (digits.repr.length - 1) with hone | hmore
  · rw [hone, pow_zero]
    exact_mod_cast hpos
  · have hlonger : ¬ digits.repr.length ≤ digits.repr.length - 1 := by omega
    rw [Nat.length_repr_le_iff hmore, Nat.not_lt] at hlonger
    exact_mod_cast hlonger

/-- The sign and the size of an exponent. -/
theorem signed_natAbs (e : ℤ) :
    (if decide (e < 0) = true then -(e.natAbs : ℤ) else e.natAbs) = e := by
  split
  · rename_i hneg
    have := of_decide_eq_true hneg
    omega
  · rename_i hneg
    have := of_decide_eq_false (Bool.eq_false_iff.mpr hneg)
    omega

/-- **Reading digits.** If the number that digits denote is a double, it is read exactly. -/
theorem holds_nearest {digits : ℕ} {e : ℤ} (hq : IsDouble ((digits : ℚ) * 10 ^ e)) :
    Holds ((digits : ℚ) * 10 ^ e) (nearest digits e).toModel.unpack := by
  unfold nearest
  by_cases hzero : digits = 0
  · rw [if_pos hzero, hzero, Nat.cast_zero, zero_mul]
    exact rfl
  have hpos : 0 < digits := Nat.pos_of_ne_zero hzero
  obtain ⟨hlow, hhigh⟩ := repr_bounds hpos
  have hmagnitude : ((toString digits).length : ℤ) = digits.repr.length := rfl
  rw [if_neg hzero, hmagnitude]
  dsimp only
  rw [if_neg fun hlarge => not_isDouble_of_large hlow (by omega) hq,
    if_neg fun hsmall => not_isDouble_of_small hpos hhigh (by omega) hq]
  have hscientific := holds_ofScientific digits (decide (e < 0)) e.natAbs
    (by rwa [signed_natAbs])
  rwa [signed_natAbs] at hscientific

theorem holds_float_ofNat {n : ℕ} (hq : IsDouble n) : Holds n (Float.ofNat n).toModel.unpack := by
  have hvalue : (n : ℚ) = n * 10 ^ (if false then -((0 : ℕ) : ℤ) else (0 : ℕ)) := by simp
  rw [hvalue] at hq ⊢
  exact holds_ofScientific n false 0 hq

/-! ## Large numbers -/

/-- The place of the leading bit tells which powers of two a number is not below. -/
theorem le_log2_add_iff {m : ℕ} (hm : 0 < m) {e k : ℤ} :
    k ≤ m.log2 + e ↔ (2 : ℚ) ^ k ≤ m * 2 ^ e := by
  constructor
  · intro hk
    have hlow : ((2 ^ m.log2 : ℕ) : ℚ) ≤ m := Nat.cast_le.mpr (Nat.log2_self_le hm.ne')
    calc (2 : ℚ) ^ k ≤ 2 ^ (m.log2 + e) := by gcongr; norm_num
      _ = (2 ^ m.log2 : ℕ) * 2 ^ e := by
        rw [zpow_add₀ two_ne_zero, zpow_natCast, Nat.cast_pow, Nat.cast_ofNat]
      _ ≤ m * 2 ^ e := by gcongr
  · intro hle
    by_contra hneg
    refine absurd hle (not_le.mpr ?_)
    have hm' : (m : ℚ) < 2 ^ ((m.log2 + 1 : ℕ) : ℤ) := by
      rw [zpow_natCast]
      exact_mod_cast Nat.lt_log2_self
    calc (m : ℚ) * 2 ^ e < 2 ^ ((m.log2 + 1 : ℕ) : ℤ) * 2 ^ e := by gcongr
      _ = 2 ^ (((m.log2 + 1 : ℕ) : ℤ) + e) := (zpow_add₀ two_ne_zero _ _).symm
      _ ≤ 2 ^ k := by gcongr <;> [norm_num; omega]

theorem Holds.atLeast {q : ℚ} {k : ℤ} {f : UnpackedFloat} (h : Holds q f) (hq : 2 ^ k ≤ q) :
    AtLeast k f := by
  have hpos : 0 < q := lt_of_lt_of_le (by positivity) hq
  obtain ⟨m, e, hm, rfl, he, rfl⟩ := h.exists_finite hpos.ne'
  exact ⟨he, (le_log2_add_iff hm).mpr hq⟩

theorem AtLeast.mul {j k : ℤ} {f g : UnpackedFloat} (hf : AtLeast j f) (hg : AtLeast k g)
    (hleast : -1074 ≤ j + k) : AtLeast (j + k) (UnpackedFloat.mul .binary64 f g) := by
  rcases hf.cases with rfl | ⟨m, e, hm, rfl, he, hj⟩
  · rcases hg.cases with rfl | ⟨n, e', hn, rfl, -, -⟩ <;> trivial
  · rcases hg.cases with rfl | ⟨n, e', hn, rfl, he', hk⟩
    · trivial
    · have hlog := log2_add_log2_le hm hn
      exact atLeast_round (Nat.mul_pos hm hn) (le_target_mul hm hn he he') (by omega) hleast _

/-- A power of ten beyond the table is rounded, but not by much. -/
theorem atLeast_power {e : ℕ} (he : 23 ≤ e) :
    AtLeast 64 (Float.ofScientific 1 false e).toModel.unpack := by
  have hslow : ¬ (1 < 2 ^ 53 ∧ e ≤ 22) := fun h => by omega
  unfold Float.ofScientific
  rw [dif_neg hslow]
  refine AtLeast.unpack_pack (f := UnpackedFloat.ofScientific .binary64 1 (Int.ofNat e)) ?_
  have hbits : Format.binary64.mantissaBits = 53 := rfl
  have hnonneg : (0 : ℤ) ≤ Int.ofNat e := Int.natCast_nonneg e
  have hnot : ¬ Int.ofNat e < -((2 ^ Format.binary64.exponentBits : ℤ) + Nat.log2 1) := by
    refine not_lt.mpr (le_trans ?_ hnonneg)
    decide
  unfold UnpackedFloat.ofScientific
  rw [dif_neg (by decide), if_neg hnot, if_pos hnonneg]
  by_cases hlarge : Int.ofNat e > 2 ^ Format.binary64.exponentBits
  · rw [if_pos hlarge]
    trivial
  · rw [if_neg hlarge]
    unfold UnpackedFloat.mul
    dsimp only
    rw [hbits, Nat.shiftLeft_eq, one_mul, show (Int.ofNat e).toNat = e from rfl]
    have hlog : 53 + 64 ≤ (2 ^ 53 * 10 ^ e).log2 := by
      rw [Nat.le_log2 (by positivity), pow_add]
      refine Nat.mul_le_mul_left _ ?_
      calc 2 ^ 64 ≤ 10 ^ 23 := by decide
        _ ≤ 10 ^ e := Nat.pow_le_pow_right (by decide) he
    exact atLeast_round (by positivity) (le_max_of_le_left (by omega)) (by omega) (by decide) _

end GeoDrafts.Decimal
