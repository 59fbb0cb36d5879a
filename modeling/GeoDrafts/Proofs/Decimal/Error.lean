import GeoDrafts.Proofs.Decimal.Natural

/-!
Errors of several roundings. One rounding is off by a small part of the number, and the parts of
roundings that follow each other add up. That holds down to the smallest doubles, which are all
below one.
-/

namespace GeoDrafts.Decimal

/-! ## Errors as parts of a number -/

/-- Neither of two numbers is below the other one less a part `d` of it. -/
def Within (d q v : ℚ) : Prop := (1 - d) * q ≤ v ∧ (1 - d) * v ≤ q

section
variable {d d' q q' a v v' : ℚ}

theorem Within.symm (h : Within d q v) : Within d v q := ⟨h.2, h.1⟩

theorem one_sub_add_mul_le (hd : 0 ≤ d) (hd' : 0 ≤ d') (hq : 0 ≤ q) :
    (1 - (d + d')) * q ≤ (1 - d) * (1 - d') * q := by
  have hmore : 0 ≤ d * d' * q := by positivity
  linarith

/-- **Parts add up** from one step to the next. -/
theorem Within.trans (h : Within d q a) (h' : Within d' a v) (hd : 0 ≤ d ∧ d ≤ 1)
    (hd' : 0 ≤ d' ∧ d' ≤ 1) (hq : 0 ≤ q) (hv : 0 ≤ v) : Within (d + d') q v := by
  have hrest : 0 ≤ 1 - d := sub_nonneg.mpr hd.2
  have hrest' : 0 ≤ 1 - d' := sub_nonneg.mpr hd'.2
  constructor
  · calc (1 - (d + d')) * q ≤ (1 - d) * (1 - d') * q := one_sub_add_mul_le hd.1 hd'.1 hq
      _ = (1 - d') * ((1 - d) * q) := by ring
      _ ≤ (1 - d') * a := by gcongr; exact h.1
      _ ≤ v := h'.1
  · calc (1 - (d + d')) * v ≤ (1 - d) * (1 - d') * v := one_sub_add_mul_le hd.1 hd'.1 hv
      _ = (1 - d) * ((1 - d') * v) := by ring
      _ ≤ (1 - d) * a := by gcongr; exact h'.2
      _ ≤ q := h.2

/-- The parts of two factors add up. -/
theorem Within.mul (h : Within d q v) (h' : Within d' q' v') (hd : 0 ≤ d ∧ d ≤ 1)
    (hd' : 0 ≤ d' ∧ d' ≤ 1) (hq : 0 ≤ q) (hq' : 0 ≤ q') (hv : 0 ≤ v) (hv' : 0 ≤ v') :
    Within (d + d') (q * q') (v * v') := by
  have hrest : 0 ≤ 1 - d := sub_nonneg.mpr hd.2
  have hrest' : 0 ≤ 1 - d' := sub_nonneg.mpr hd'.2
  constructor
  · calc (1 - (d + d')) * (q * q') ≤ (1 - d) * (1 - d') * (q * q') :=
        one_sub_add_mul_le hd.1 hd'.1 (mul_nonneg hq hq')
      _ = ((1 - d) * q) * ((1 - d') * q') := by ring
      _ ≤ v * v' := by gcongr; exacts [h.1, h'.1]
  · calc (1 - (d + d')) * (v * v') ≤ (1 - d) * (1 - d') * (v * v') :=
        one_sub_add_mul_le hd.1 hd'.1 (mul_nonneg hv hv')
      _ = ((1 - d) * v) * ((1 - d') * v') := by ring
      _ ≤ q * q' := by gcongr; exacts [h.2, h'.2]

theorem Within.inv (h : Within d q v) (hq : 0 < q) (hv : 0 < v) : Within d q⁻¹ v⁻¹ := by
  constructor
  · rw [← div_eq_mul_inv, div_le_iff₀ hq, ← div_eq_inv_mul, le_div_iff₀ hv]
    exact h.2
  · rw [← div_eq_mul_inv, div_le_iff₀ hv, ← div_eq_inv_mul, le_div_iff₀ hq]
    exact h.1

theorem Within.refl (hd : 0 ≤ d) (hq : 0 ≤ q) : Within d q q := by
  have hle : (1 - d) * q ≤ q := mul_le_of_le_one_left hq (sub_le_self 1 hd)
  exact ⟨hle, hle⟩

theorem Within.mono (h : Within d q v) (hd : d ≤ d') (hq : 0 ≤ q) (hv : 0 ≤ v) :
    Within d' q v := by
  constructor
  · exact le_trans (by gcongr) h.1
  · exact le_trans (by gcongr) h.2

theorem Within.mul_right (h : Within d q v) (ha : 0 ≤ a) : Within d (q * a) (v * a) := by
  constructor
  · rw [← mul_assoc]
    gcongr
    exact h.1
  · rw [← mul_assoc]
    gcongr
    exact h.2

/-- Half of a number is not too far from what is within a part of it. -/
theorem Within.le_two_mul (h : Within d q v) (hd : d ≤ 1 / 2) (hq : 0 ≤ q) : q ≤ 2 * v := by
  have hhalf : 1 / 2 * q ≤ (1 - d) * q := by gcongr; linarith
  linarith [h.1]

theorem within_of_error (h : |q - v| * 2 ^ 53 ≤ v) : Within (1 / 2 ^ 53) q v := by
  obtain ⟨hlow, hhigh⟩ := abs_le.mp ((le_div_iff₀ (by positivity)).mpr h)
  constructor <;> linarith [abs_nonneg (q - v)]

end

/-! ## Roundings as parts -/

section
variable {q c v : ℚ} {x : Float}

theorem Holds.nonneg (h : Holds q x.toModel.unpack) : 0 ≤ q := by
  rcases h.cases with ⟨-, -, rfl⟩ | ⟨m, e, -, -, -, -, rfl⟩
  · exact le_rfl
  · positivity

/-- What the value of a double says about the number that was rounded. -/
theorem Nears.within (h : Nears q x.toModel.unpack) (hv : value? x = some v) :
    v < 2 ^ (-1022 : ℤ) ∧ q ≤ 2 ^ (-1021 : ℤ) ∨ Within (1 / 2 ^ 53) q v := by
  refine (h.error hv).imp ?_ within_of_error
  rintro ⟨hsmall, herror⟩
  refine ⟨hsmall, ?_⟩
  calc q = (q - v) + v := (sub_add_cancel _ _).symm
    _ ≤ 2 ^ (-1022 : ℤ) + 2 ^ (-1022 : ℤ) := by
      gcongr
      exact (le_abs_self _).trans (herror.trans (by gcongr <;> norm_num))
    _ = 2 ^ (-1021 : ℤ) := by
      rw [← two_mul, ← zpow_one_add₀ two_ne_zero]
      norm_num

/-- A number from one to `10 ^ 308` is rounded to a double that is off by one part. -/
theorem Nears.exists_within (h : Nears q x.toModel.unpack) (hone : 1 ≤ q)
    (hq : q ≤ 10 ^ (308 : ℤ)) : ∃ v, Holds v x.toModel.unpack ∧ Within (1 / 2 ^ 53) q v := by
  obtain ⟨v, hv⟩ := h.exists_holds hq
  refine ⟨v, hv, (h.within hv.value?).resolve_left ?_⟩
  rintro ⟨-, hsmall⟩
  have hlt : (2 : ℚ) ^ (-1021 : ℤ) < 2 ^ (0 : ℤ) := by gcongr <;> norm_num
  exact absurd hone (hsmall.trans_lt hlt).not_ge

/-- Rounding does not lift a number by more than a factor of two, except to the smallest doubles. -/
theorem Nears.le_of_value? (h : Nears q x.toModel.unpack) (hv : value? x = some v) {j : ℤ}
    (hj : -1022 ≤ j) (hq : q ≤ 2 ^ j) : v ≤ 2 ^ (j + 1) := by
  have hnext : (2 : ℚ) ^ (j + 1) = 2 * 2 ^ j := by
    rw [zpow_add_one₀ two_ne_zero, mul_comm]
  have hpos : (0 : ℚ) < 2 ^ j := by positivity
  rcases h.within hv with ⟨hsmall, -⟩ | hwithin
  · have hle : (2 : ℚ) ^ (-1022 : ℤ) ≤ 2 ^ j := by gcongr; norm_num
    linarith
  · have := hwithin.symm.le_two_mul (by norm_num) (h.nonneg hv)
    linarith

/-- A double as which a number is read in several roundings: it is off by four parts at most, or
both are below one, the number by far. -/
def Approximates (q : ℚ) (x : Float) : Prop :=
  ∀ v, value? x = some v → 0 ≤ v ∧ (v < 1 ∧ q ≤ 2 ^ (-900 : ℤ) ∨ Within (4 / 2 ^ 53) q v)

theorem Holds.approximates_of_nonpos (h : Holds 0 x.toModel.unpack) (hq : q ≤ 0) :
    Approximates q x := by
  intro v hv
  obtain rfl := Option.some.inj (h.value?.symm.trans hv)
  exact ⟨le_rfl, .inl ⟨one_pos, hq.trans (by positivity)⟩⟩

/-- One more rounding adds one part. -/
theorem Nears.approximates {d : ℚ} (h : Nears c x.toModel.unpack) (hc : Within d q c)
    (hd : 0 ≤ d ∧ d ≤ 3 / 2 ^ 53) (hq : 0 ≤ q) : Approximates q x := by
  intro v hv
  have hnonneg := h.nonneg hv
  refine ⟨hnonneg, (h.within hv).imp ?_ fun hwithin => ?_⟩
  · rintro ⟨hsmall, hsmall'⟩
    refine ⟨hsmall.trans_le (zpow_le_one_of_nonpos₀ (by norm_num) (by norm_num)), ?_⟩
    calc q ≤ 2 * c := hc.le_two_mul (hd.2.trans (by norm_num)) hq
      _ ≤ 2 * 2 ^ (-1021 : ℤ) := by gcongr
      _ = 2 ^ (-1020 : ℤ) := by
        rw [← zpow_one_add₀ two_ne_zero]
        norm_num
      _ ≤ 2 ^ (-900 : ℤ) := by gcongr <;> norm_num
  · refine (hc.trans hwithin ⟨hd.1, hd.2.trans (by norm_num)⟩ (by norm_num) hq hnonneg).mono ?_ hq
      hnonneg
    linarith [hd.2]

/-- Reading a natural number in several roundings is off by one part in `2 ^ 50` at most. -/
theorem Approximates.natural {n : ℕ} (h : Approximates q x) (hq : 0 ≤ q)
    (hn : value? x = some (n : ℚ)) :
    n = 0 ∧ q ≤ 2 ^ (-900 : ℤ) ∨ |q - n| * 2 ^ 50 ≤ n := by
  obtain ⟨hnonneg, ⟨hlt, hsmall⟩ | hwithin⟩ := h _ hn
  · exact .inl ⟨eq_zero_of_lt_one hlt, hsmall⟩
  · have hlarge := hwithin.le_two_mul (by norm_num) hq
    refine .inr ((le_div_iff₀ (by positivity)).mp (abs_le.mpr ?_))
    obtain ⟨hlow, hhigh⟩ := hwithin
    constructor <;> linarith

end

end GeoDrafts.Decimal
