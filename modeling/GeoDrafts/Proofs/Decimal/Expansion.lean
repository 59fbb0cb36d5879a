import GeoDrafts.Decimal.Shortest
import GeoDrafts.Proofs.Decimal.Whole

/-!
Every finite double is a decimal number. A double has one normal form and one bit pattern, so the
digits of its exact value are read as the double itself.
-/

namespace GeoDrafts.Decimal

open Float.Model
open Float.Model.UnpackedFloat hiding unpack pack

/-! ## One form for a number -/

theorem log2_mul_two_pow {m : ℕ} (hm : 0 < m) (k : ℕ) : (m * 2 ^ k).log2 = m.log2 + k := by
  induction k with
  | zero => rw [pow_zero, mul_one, add_zero]
  | succ k ih =>
    have hne : m * 2 ^ k ≠ 0 := (Nat.mul_pos hm (Nat.two_pow_pos k)).ne'
    rw [pow_succ, ← mul_assoc, mul_comm _ 2, Nat.log2_two_mul hne, ih, add_assoc]

theorem target_mul_two_pow {m : ℕ} (hm : 0 < m) (k : ℕ) (e : ℤ) :
    target (m * 2 ^ k) e = target m (e + k) := by
  rw [target, target, log2_mul_two_pow hm, Nat.cast_add, add_assoc, add_comm (k : ℤ) e]

/-- Two normal forms of a number are the same. -/
theorem form_unique {m n : ℕ} {e f : ℤ} (hn : 0 < n) (he : e = target m e) (hf : f = target n f)
    (h : (m : ℚ) * 2 ^ e = n * 2 ^ f) (hef : e ≤ f) : m = n ∧ e = f := by
  have hpow := eq_mul_two_pow h hef
  have hexponent : e = f := by
    rw [he, hpow, target_mul_two_pow hn, Int.toNat_of_nonneg (by omega), add_sub_cancel, ← hf]
  subst hexponent
  rw [hpow, sub_self]
  simp

theorem Holds.unique {q : ℚ} {f g : UnpackedFloat} (hf : Holds q f) (hg : Holds q g)
    (hq : q ≠ 0) : f = g := by
  obtain ⟨m, e, hm, rfl, he, hvalue⟩ := hf.exists_finite hq
  obtain ⟨n, e', hn, rfl, he', hvalue'⟩ := hg.exists_finite hq
  have heq := hvalue.symm.trans hvalue'
  rcases le_total e e' with hle | hle
  · obtain ⟨rfl, rfl⟩ := form_unique hn he he' heq hle
    rfl
  · obtain ⟨rfl, rfl⟩ := form_unique hm he' he heq.symm hle
    rfl

/-! ## One pattern for a form -/

/-- The fields of a pattern that holds a finite number. -/
theorem unpack_eq_fields {b : BitVec Format.binary64.numBits} (hb : unpackExponent b ≠ -1#11) :
    UnpackedFloat.unpack .binary64 b =
      if unpackExponent b = 0#11 then
        if h : unpackMantissa b = 0#52 then .zero (Sign.ofBitVec (unpackSign b))
        else .finite (Sign.ofBitVec (unpackSign b)) (unpackMantissa b).toNat (-1074) (by
          rw [Nat.pos_iff_ne_zero]
          exact fun hzero => h (BitVec.eq_of_toNat_eq hzero))
      else
        .finite (Sign.ofBitVec (unpackSign b)) (2 ^ 52 + (unpackMantissa b).toNat)
          ((unpackExponent b).toNat - 1075) (by positivity) := by
  have hunpack := unpack_packComponents (Sign.ofBitVec (unpackSign b)) hb (unpackMantissa b)
  rwa [packComponents_unpackSign_unpackExponent_unpackMantissa] at hunpack

theorem bits_unique {b b' : BitVec Format.binary64.numBits} (hb : unpackExponent b ≠ -1#11)
    (hb' : unpackExponent b' ≠ -1#11)
    (h : UnpackedFloat.unpack .binary64 b = UnpackedFloat.unpack .binary64 b') : b = b' := by
  have hfields : Sign.ofBitVec (unpackSign b) = Sign.ofBitVec (unpackSign b') ∧
      unpackExponent b = unpackExponent b' ∧ unpackMantissa b = unpackMantissa b' := by
    have hlt : (unpackMantissa b).toNat < 2 ^ 52 := (unpackMantissa b).isLt
    have hlt' : (unpackMantissa b').toNat < 2 ^ 52 := (unpackMantissa b').isLt
    have hmantissa : (unpackMantissa b).toNat = (unpackMantissa b').toNat →
        unpackMantissa b = unpackMantissa b' := BitVec.eq_of_toNat_eq
    have hexponent : (unpackExponent b).toNat = (unpackExponent b').toNat →
        unpackExponent b = unpackExponent b' := BitVec.eq_of_toNat_eq
    rw [unpack_eq_fields hb, unpack_eq_fields hb'] at h
    by_cases hz : unpackExponent b = 0#11 <;> by_cases hz' : unpackExponent b' = 0#11
    · rw [if_pos hz, if_pos hz'] at h
      by_cases hm : unpackMantissa b = 0#52 <;> by_cases hm' : unpackMantissa b' = 0#52
      · rw [dif_pos hm, dif_pos hm', UnpackedFloat.zero.injEq] at h
        exact ⟨h, hz.trans hz'.symm, hm.trans hm'.symm⟩
      · rw [dif_pos hm, dif_neg hm'] at h
        cases h
      · rw [dif_neg hm, dif_pos hm'] at h
        cases h
      · rw [dif_neg hm, dif_neg hm', UnpackedFloat.finite.injEq] at h
        exact ⟨h.1, hz.trans hz'.symm, hmantissa h.2.1⟩
    · rw [if_pos hz, if_neg hz'] at h
      split at h
      · cases h
      · rw [UnpackedFloat.finite.injEq] at h
        omega
    · rw [if_neg hz, if_pos hz'] at h
      split at h
      · cases h
      · rw [UnpackedFloat.finite.injEq] at h
        omega
    · rw [if_neg hz, if_neg hz', UnpackedFloat.finite.injEq] at h
      exact ⟨h.1, hexponent (by omega), hmantissa (by omega)⟩
  rw [← packComponents_unpackSign_unpackExponent_unpackMantissa b, hfields.1, hfields.2.1,
    hfields.2.2, packComponents_unpackSign_unpackExponent_unpackMantissa]

theorem unpackExponent_ne {x : Float} (h : x.isFinite = true) :
    @unpackExponent .binary64 x.toBits.toBitVec ≠ -1#11 := by
  have hlt := (isFinite_unpack x.toBits.toBitVec).mp h
  intro hones
  rw [hones] at hlt
  exact absurd hlt (by decide)

theorem eq_of_unpack_eq {x y : Float} (hx : x.isFinite = true)
    (h : x.toModel.unpack = y.toModel.unpack) : x = y := by
  have hy : y.isFinite = true := by
    change y.toModel.unpack.isFinite = true
    rw [← h]
    exact hx
  have hbits := bits_unique (unpackExponent_ne hx) (unpackExponent_ne hy) h
  exact Float.toBits_inj.mp (UInt64.toBitVec_inj.mp hbits)

/-! ## The exact value -/

theorem Dyadic.exactly_value (d : Dyadic) :
    (d.exactly.digits : ℚ) * 10 ^ d.exactly.exponent = d.significand * 2 ^ d.exponent ∧
      d.exactly.exponent ≤ 0 := by
  unfold Dyadic.exactly
  split
  · rename_i hnonneg
    refine ⟨?_, le_rfl⟩
    have hpow : (2 : ℚ) ^ d.exponent = 2 ^ d.exponent.toNat := by
      rw [← zpow_natCast, Int.toNat_of_nonneg hnonneg]
    rw [hpow, Dyadic.scaleUp, Nat.pow_eq]
    push_cast
    simp
  · rename_i hneg
    refine ⟨?_, (not_le.mp hneg).le⟩
    have hexponent : d.exponent = -((-d.exponent).toNat : ℤ) := by
      have := not_le.mp hneg
      omega
    dsimp only
    generalize (-d.exponent).toNat = k at hexponent ⊢
    have hten : (10 : ℚ) ^ k = 5 ^ k * 2 ^ k := by rw [← mul_pow]; norm_num
    rw [hexponent, zpow_neg, zpow_neg, zpow_natCast, zpow_natCast, hten, Nat.pow_eq]
    push_cast
    field_simp

theorem unpack_neg {y : Float} {f : UnpackedFloat} (h : y.toModel.unpack = f) :
    (-y).toModel.unpack = (Float.Model.pack f.neg).unpack := by
  rw [← h]
  rfl

/-- **Digits of a double.** The digits of its exact value are read as the double. -/
theorem exists_nearest_eq {x : Float} (h : x.isFinite = true) :
    ∃ (digits k : ℕ) (negative : Bool),
      (if negative then -nearest digits (-k) else nearest digits (-k)) = x := by
  obtain ⟨⟨hm, hleast, he, hnormal⟩, s, hunpack⟩ := unpack_eq_ofFloat h
  obtain ⟨hvalue, hexponent⟩ := (Dyadic.ofFloat x).exactly_value
  generalize Dyadic.ofFloat x = d at hm hleast he hnormal hunpack hvalue hexponent
  by_cases hpos : 0 < d.significand
  · rw [dif_pos hpos] at hunpack
    have hform := (target_eq_self hm hleast hnormal).symm
    have hholds : Holds (d.significand * 2 ^ d.exponent)
        (.finite .positive d.significand d.exponent hpos) := ⟨hform, he, rfl⟩
    have hdouble : IsDouble ((d.significand : ℚ) * 2 ^ d.exponent) :=
      ⟨d.significand, d.exponent, hm, hleast, he, abs_of_nonneg (by positivity)⟩
    have hne : (d.significand : ℚ) * 2 ^ d.exponent ≠ 0 := by positivity
    rw [← hvalue] at hholds hdouble hne
    have hnearest := (holds_nearest hdouble).unique hholds hne
    obtain ⟨k, hk⟩ : ∃ k : ℕ, d.exactly.exponent = -(k : ℤ) :=
      ⟨(-d.exactly.exponent).toNat, by omega⟩
    rw [hk] at hnearest
    cases s with
    | positive =>
      exact ⟨d.exactly.digits, k, false, (eq_of_unpack_eq h (hunpack.trans hnearest.symm)).symm⟩
    | negative =>
      refine ⟨d.exactly.digits, k, true, (eq_of_unpack_eq h ?_).symm⟩
      have hneg : UnpackedFloat.neg (.finite .positive d.significand d.exponent hpos) =
          .finite .negative d.significand d.exponent hpos := rfl
      rw [hunpack, if_pos rfl, unpack_neg hnearest, hneg, unpack_pack_finite hform he]
  · rw [dif_neg hpos] at hunpack
    cases s with
    | positive =>
      have hzero : x = 0.0 := eq_of_unpack_eq h (hunpack.trans (by rfl))
      exact ⟨0, 0, false, hzero.symm⟩
    | negative =>
      have hzero : x = -0.0 := eq_of_unpack_eq h (hunpack.trans (by rfl))
      exact ⟨0, 0, true, hzero.symm⟩

end GeoDrafts.Decimal
