import GeoDrafts.Proofs.Decimal.NotNan
import GeoDrafts.Proofs.Decimal.Whole

/-!
The order of doubles and rounding up. Finite doubles are compared as their values are, and the
least whole number that is not below a double is a double too.
-/

namespace GeoDrafts.Decimal

open Float.Model
open Float.Model.UnpackedFloat hiding unpack pack

section
variable {m n : ℕ} {e k : ℤ}

/-- A larger exponent makes a larger number. -/
theorem lt_of_exponent_lt (hn : 0 < n) (he : e = target m e) (hk : k = target n k) (h : e < k) :
    (m : ℚ) * 2 ^ e < n * 2 ^ k := by
  have htarget : target m e = max ((m.log2 : ℤ) + e - 52) (-1074) := rfl
  have htarget' : target n k = max ((n.log2 : ℤ) + k - 52) (-1074) := rfl
  have hshort : (m : ℚ) < (2 ^ 53 : ℕ) := by
    exact_mod_cast Nat.lt_log2_self.trans_le (Nat.pow_le_pow_right (by decide) (by omega))
  have hlong : ((2 ^ 52 : ℕ) : ℚ) ≤ n := by
    exact_mod_cast (Nat.le_log2 hn.ne').mp (by omega)
  calc (m : ℚ) * 2 ^ e < (2 ^ 53 : ℕ) * 2 ^ e := by gcongr
    _ = (2 ^ 52 : ℕ) * 2 ^ (e + 1) := by
      rw [zpow_add_one₀ two_ne_zero]
      push_cast
      ring
    _ ≤ n * 2 ^ k := by gcongr <;> [norm_num; omega]

/-- Numbers in normal form are compared by their exponents first. -/
theorem compare_then_eq_lt_iff (hm : 0 < m) (hn : 0 < n) (he : e = target m e)
    (hk : k = target n k) :
    (compare e k).then (compare m n) = .lt ↔ (m : ℚ) * 2 ^ e < n * 2 ^ k := by
  rcases lt_trichotomy e k with hlt | rfl | hgt
  · rw [compare_lt_iff_lt.mpr hlt]
    exact iff_of_true rfl (lt_of_exponent_lt hn he hk hlt)
  · rw [compare_eq_iff_eq.mpr rfl, Ordering.eq_then, compare_lt_iff_lt,
      mul_lt_mul_iff_left₀ (by positivity), Nat.cast_lt]
  · rw [compare_gt_iff_gt.mpr hgt]
    exact iff_of_false nofun (lt_of_exponent_lt hm hk he hgt).not_gt

end

theorem lt_iff (x y : Float) : x < y ↔ x.toModel.unpack.lt y.toModel.unpack = true :=
  decide_eq_true_iff

/-- What a finite double is made of, and its value. -/
inductive Denotes : UnpackedFloat → ℚ → Prop
  | zero (s : Sign) : Denotes (.zero s) 0
  | positive {m : ℕ} {e : ℤ} (hm : 0 < m) (he : e = target m e) :
      Denotes (.finite .positive m e hm) (m * 2 ^ e)
  | negative {m : ℕ} {e : ℤ} (hm : 0 < m) (he : e = target m e) :
      Denotes (.finite .negative m e hm) (-(m * 2 ^ e))

theorem denotes_of_value? {x : Float} {q : ℚ} (h : value? x = some q) :
    Denotes x.toModel.unpack q := by
  unfold value? at h
  cases hx : x.toModel.unpack with
  | zero s =>
    rw [hx] at h
    cases h
    exact .zero s
  | finite s m e hm =>
    have hform := (form_of_unpack hx).1
    rw [hx] at h
    cases s with
    | positive =>
      cases h
      exact .positive hm hform
    | negative =>
      cases h
      exact .negative hm hform
  | _ =>
    rw [hx] at h
    cases h

theorem Denotes.lt_iff {f g : UnpackedFloat} {a b : ℚ} (hf : Denotes f a) (hg : Denotes g b) :
    f.lt g = true ↔ a < b := by
  change (f.compare g == some .lt) = true ↔ a < b
  rw [beq_iff_eq]
  cases hf with
  | zero s =>
    cases hg with
    | zero t => exact iff_of_false nofun (lt_irrefl 0)
    | positive hn hk => exact iff_of_true rfl (by positivity)
    | negative hn hk => exact iff_of_false nofun (not_lt.mpr (neg_nonpos.mpr (by positivity)))
  | positive hm he =>
    cases hg with
    | zero t => exact iff_of_false nofun (not_lt.mpr (by positivity))
    | positive hn hk => exact Option.some_inj.trans (compare_then_eq_lt_iff hm hn he hk)
    | negative hn hk =>
      exact iff_of_false nofun
        (not_lt.mpr ((neg_nonpos.mpr (by positivity)).trans (by positivity)))
  | negative hm he =>
    cases hg with
    | zero t => exact iff_of_true rfl (neg_neg_iff_pos.mpr (by positivity))
    | positive hn hk =>
      exact iff_of_true rfl ((neg_neg_iff_pos.mpr (by positivity)).trans (by positivity))
    | negative hn hk =>
      rw [neg_lt_neg_iff, ← compare_then_eq_lt_iff hn hm hk he]
      refine Option.some_inj.trans ?_
      rw [Ordering.swap_then, ← Std.OrientedOrd.eq_swap, ← Std.OrientedOrd.eq_swap]

/-- **The order of doubles** is that of their values. -/
theorem lt_iff_of_value? {x y : Float} {a b : ℚ} (hx : value? x = some a)
    (hy : value? y = some b) : x < y ↔ a < b :=
  (lt_iff x y).trans ((denotes_of_value? hx).lt_iff (denotes_of_value? hy))

theorem holds_of_value? {x : Float} {q : ℚ} (h : value? x = some q) (hq : 0 ≤ q) :
    Holds q x.toModel.unpack := by
  have hdenotes := denotes_of_value? h
  cases hx : x.toModel.unpack with
  | zero s =>
    rw [hx] at hdenotes
    cases hdenotes
    exact rfl
  | finite s m e hm =>
    rw [hx] at hdenotes
    cases hdenotes with
    | positive _ he => exact ⟨he, (form_of_unpack hx).2, rfl⟩
    | negative _ he => exact absurd hq (not_le.mpr (neg_neg_iff_pos.mpr (by positivity)))
  | _ =>
    rw [hx] at hdenotes
    cases hdenotes

theorem isFinite_iff_value? {x : Float} : x.isFinite = true ↔ ∃ q, value? x = some q := by
  refine ⟨fun h => ?_, fun ⟨q, hq⟩ => isFinite_of_value? hq⟩
  rcases value?_eq h with ⟨hvalue, -⟩ | ⟨hvalue, -, -⟩
  · exact ⟨_, hvalue⟩
  · exact ⟨_, hvalue⟩

/-! ## Rounding up -/

namespace Dyadic

theorem scaleDown_pos (d : Dyadic) : 0 < d.scaleDown := Nat.two_pow_pos _

/-- The value as a fraction. -/
theorem value_eq_div (d : Dyadic) :
    (d.significand : ℚ) * 2 ^ d.exponent = (d.significand * d.scaleUp : ℕ) / (d.scaleDown : ℕ) := by
  have hpow : (2 : ℚ) ^ d.exponent = 2 ^ d.exponent.toNat / 2 ^ (-d.exponent).toNat := by
    rw [← zpow_natCast, ← zpow_natCast, ← zpow_sub₀ two_ne_zero]
    congr 1
    omega
  rw [hpow, scaleUp, scaleDown, Nat.pow_eq, Nat.pow_eq]
  push_cast
  ring

/-- A number with a fraction has no power of two to multiply with. -/
theorem exponent_neg_of_isWhole_eq_false {d : Dyadic} (h : d.isWhole = false) :
    d.exponent < 0 := by
  by_contra hnonneg
  have hdown : d.scaleDown = 1 := by
    rw [scaleDown, Nat.pow_eq, show (-d.exponent).toNat = 0 by omega, pow_zero]
  rw [isWhole, hdown, Nat.mod_one] at h
  cases h

end Dyadic

theorem value?_ofNat {n : ℕ} (hn : n < 2 ^ 53) : value? (Float.ofNat n) = some (n : ℚ) :=
  (holds_float_ofNat (isDouble_of_lt hn)).value?

/-- A quotient rounded up, in natural numbers. -/
theorem ceil_natCast_div {a b : ℕ} (hb : 0 < b) :
    ⌈(a : ℚ) / b⌉ = (((a + (b - 1)) / b : ℕ) : ℤ) := by
  have hb' : (0 : ℚ) < b := Nat.cast_pos.mpr hb
  have hlow := Nat.div_mul_le_self (a + (b - 1)) b
  have hhigh := Nat.lt_div_mul_add (a := a + (b - 1)) hb
  generalize (a + (b - 1)) / b = c at hlow hhigh
  have hlow' : ((c * b : ℕ) : ℚ) < (a + b : ℕ) := by exact_mod_cast (by omega : c * b < a + b)
  have hhigh' : ((a : ℕ) : ℚ) ≤ (c * b : ℕ) := by exact_mod_cast (by omega : a ≤ c * b)
  push_cast at hlow' hhigh'
  rw [Int.ceil_eq_iff, Int.cast_natCast]
  constructor
  · rw [lt_div_iff₀ hb']
    linarith
  · rwa [div_le_iff₀ hb']

/-- **Rounding up** gives the least whole number that is not below the value. -/
theorem value?_roundUp {x : Float} {q : ℚ} (h : value? x = some q) :
    value? (roundUp x) = some (⌈q⌉ : ℚ) := by
  have hfinite := isFinite_of_value? h
  obtain ⟨⟨hlt, -, -, -⟩, -⟩ := unpack_eq_ofFloat hfinite
  have hsize := value?_eq hfinite
  unfold roundUp
  dsimp only at hsize ⊢
  generalize Dyadic.ofFloat x = d at hlt hsize ⊢
  have hdown := d.scaleDown_pos
  rw [d.value_eq_div] at hsize
  rw [hfinite, Bool.not_true, Bool.false_or]
  cases hwhole : d.isWhole with
  | true =>
    -- The value is a whole number, with or without a sign.
    have hdvd : d.scaleDown ∣ d.significand * d.scaleUp :=
      Nat.dvd_of_mod_eq_zero (beq_iff_eq.mp hwhole)
    rw [← Nat.cast_div hdvd (by positivity), h, Option.some_inj, Option.some_inj] at hsize
    rw [if_pos rfl, h]
    rcases hsize with ⟨rfl, -⟩ | ⟨rfl, -, -⟩
    · rw [Int.ceil_natCast, Int.cast_natCast]
    · rw [Int.ceil_neg, Int.floor_natCast, Int.cast_neg, Int.cast_natCast]
  | false =>
    have hexponent := Dyadic.exponent_neg_of_isWhole_eq_false hwhole
    have hup : d.scaleUp = 1 := by
      rw [Dyadic.scaleUp, Nat.pow_eq, show d.exponent.toNat = 0 by omega, pow_zero]
    have hfloor : d.floor = d.significand / d.scaleDown := by rw [Dyadic.floor, hup, mul_one]
    have hceil : d.ceil = (d.significand + (d.scaleDown - 1)) / d.scaleDown := by
      rw [Dyadic.ceil, hup, mul_one]
    rw [hup, mul_one, h, Option.some_inj, Option.some_inj] at hsize
    rw [if_neg Bool.false_ne_true]
    rcases hsize with ⟨rfl, hnonneg⟩ | ⟨rfl, -, hneg⟩
    · have hsmall : d.ceil < 2 ^ 53 := by
        rw [hceil]
        exact Nat.div_lt_of_lt_mul (by omega)
      rw [if_neg hnonneg, value?_ofNat hsmall, ceil_natCast_div hdown, hceil, Int.cast_natCast]
    · have hsmall : d.floor < 2 ^ 53 := by
        rw [hfloor]
        exact (Nat.div_le_self _ _).trans_lt hlt
      rw [if_pos hneg, value?_neg, value?_ofNat hsmall, Option.map_some, Int.ceil_neg,
        Rat.floor_natCast_div_natCast, hfloor]
      push_cast
      rfl

theorem roundUp_of_not_isFinite {x : Float} (h : x.isFinite = false) : roundUp x = x := by
  unfold roundUp
  rw [h, Bool.not_false]
  rfl

/-- A natural number of 64 bits is cast as it is. -/
theorem saturated_eq {x : Float} {n : ℕ} (h : value? x = some (n : ℚ)) (hn : n < 2 ^ 64) :
    saturated x = n := by
  have hread := naturalOfFloat?_eq_some_iff.mpr ⟨h, hn⟩
  have hfinite := isFinite_of_value? h
  have hnan : x.isNaN = false := isNaN_of_isFinite hfinite
  unfold naturalOfFloat? at hread
  dsimp only at hread
  rw [Option.ite_none_right_eq_some, Option.ite_none_right_eq_some, Option.some.injEq,
    Bool.and_eq_true, Bool.not_eq_true', decide_eq_false_iff_not] at hread
  obtain ⟨⟨-, hnonneg⟩, -, hfloor⟩ := hread
  have hle : n ≤ Nat.pow 2 64 - 1 := Nat.le_pred_of_lt hn
  unfold saturated
  rw [hnan, decide_eq_false hnonneg, Bool.or_self, if_neg Bool.false_ne_true, if_pos hfinite,
    hfloor, Nat.min_eq_left hle]

end GeoDrafts.Decimal
