import GeoDrafts.Proofs.Decimal.Natural
import GeoDrafts.Proofs.Decimal.Order

/-!
Counting in floating point. Sums and products of whole numbers are exact up to `2 ^ 53`, and no
rounding brings a larger one below that; so a double shows whether a count is below a small bound.
-/

namespace GeoDrafts.Decimal

open Float.Model
open Float.Model.UnpackedFloat hiding unpack pack

section
variable {f g : UnpackedFloat}

theorem AtLeast.mono {j k : ℤ} (h : AtLeast k f) (hjk : j ≤ k) : AtLeast j f := by
  rcases h.cases with rfl | ⟨m, e, hm, rfl, he, hk⟩
  · trivial
  · exact ⟨he, hjk.trans hk⟩

/-! ## Sums -/

/-- A significand with zeros behind it and the exponent for them. -/
theorem shiftLeft_value (m : ℕ) {e t : ℤ} (h : t ≤ e) :
    ((m <<< (e - t).toNat : ℕ) : ℚ) * 2 ^ t = m * 2 ^ e := by
  have hpow : (2 : ℚ) ^ e = 2 ^ (e - t).toNat * 2 ^ t := by
    rw [← zpow_natCast, ← zpow_add₀ two_ne_zero]
    congr 1
    omega
  rw [Nat.shiftLeft_eq, hpow, Nat.cast_mul, Nat.cast_pow, Nat.cast_ofNat, mul_assoc]

/-- Two numbers are brought to one exponent, and their sum is rounded once. -/
theorem exists_add_eq {m n : ℕ} (hm : 0 < m) (hn : 0 < n) (e k : ℤ) :
    ∃ (s : ℕ) (t : ℤ), 0 < s ∧ (m : ℚ) * 2 ^ e + n * 2 ^ k = s * 2 ^ t ∧ t ≤ target s t ∧
      UnpackedFloat.add .binary64 (.finite .positive m e hm) (.finite .positive n k hn) =
        roundWithAccuracy .binary64 .positive s t .exact := by
  have hvalue : ((m <<< (e - min e k).toNat + n <<< (k - min e k).toNat : ℕ) : ℚ) *
      2 ^ min e k = m * 2 ^ e + n * 2 ^ k := by
    rw [Nat.cast_add, add_mul, shiftLeft_value m (min_le_left e k),
      shiftLeft_value n (min_le_right e k)]
  have hpos : 0 < m <<< (e - min e k).toNat + n <<< (k - min e k).toNat := by
    rw [Nat.shiftLeft_eq]
    positivity
  obtain ⟨s, t, hs, hst, htarget, hround⟩ := exists_normalize_eq hpos (min e k) .positive
  exact ⟨s, t, hs, hvalue.symm.trans hst, htarget, hround⟩

theorem holds_add {a b : ℚ} (hf : Holds a f) (hg : Holds b g) (ha : 0 < a) (hb : 0 < b)
    (hq : IsDouble (a + b)) : Holds (a + b) (UnpackedFloat.add .binary64 f g) := by
  obtain ⟨m, e, hm, rfl, -, rfl⟩ := hf.exists_finite ha.ne'
  obtain ⟨n, k, hn, rfl, -, rfl⟩ := hg.exists_finite hb.ne'
  obtain ⟨s, t, hs, hvalue, htarget, hround⟩ := exists_add_eq hm hn e k
  rw [hround, hvalue]
  exact holds_round hs htarget (hvalue ▸ hq)

/-- A rounded sum is not below a power of two that the sum is not below. -/
theorem atLeast_add {a b : ℚ} {j : ℤ} (hf : Holds a f) (hg : Holds b g) (ha : 0 < a) (hb : 0 < b)
    (hj : 2 ^ j ≤ a + b) (hleast : -1074 ≤ j) : AtLeast j (UnpackedFloat.add .binary64 f g) := by
  obtain ⟨m, e, hm, rfl, -, rfl⟩ := hf.exists_finite ha.ne'
  obtain ⟨n, k, hn, rfl, -, rfl⟩ := hg.exists_finite hb.ne'
  obtain ⟨s, t, hs, hvalue, htarget, hround⟩ := exists_add_eq hm hn e k
  rw [hround]
  exact atLeast_round hs htarget ((le_log2_add_iff hs).mpr (hvalue ▸ hj)) hleast _

theorem AtLeast.add {j k : ℤ} (hf : AtLeast j f) (hg : AtLeast k g) (hleast : -1074 ≤ j) :
    AtLeast j (UnpackedFloat.add .binary64 f g) := by
  rcases hf.cases with rfl | ⟨m, e, hm, rfl, -, hlog⟩
  · rcases hg.cases with rfl | ⟨n, e', hn, rfl, -, -⟩ <;> trivial
  · rcases hg.cases with rfl | ⟨n, e', hn, rfl, -, -⟩
    · trivial
    · obtain ⟨s, t, hs, hvalue, htarget, hround⟩ := exists_add_eq hm hn e e'
      have hlow := (le_log2_add_iff hm).mp hlog
      have hmore : (m : ℚ) * 2 ^ e ≤ s * 2 ^ t := by
        rw [← hvalue]
        exact le_add_of_nonneg_right (by positivity)
      rw [hround]
      exact atLeast_round hs htarget ((le_log2_add_iff hs).mpr (hlow.trans hmore)) hleast _

/-! ## Products -/

/-- A rounded product is not below a power of two that the product is not below. -/
theorem atLeast_mul {a b : ℚ} {j : ℤ} (hf : Holds a f) (hg : Holds b g) (hj : 2 ^ j ≤ a * b)
    (hleast : -1074 ≤ j) : AtLeast j (UnpackedFloat.mul .binary64 f g) := by
  rcases mul_cases hf hg with ⟨s, -, hvalue⟩ | ⟨m, e, hm, hvalue, htarget, hround⟩
  · rw [hvalue] at hj
    exact absurd hj (not_le.mpr (by positivity))
  · rw [hround]
    exact atLeast_round hm htarget ((le_log2_add_iff hm).mpr (hvalue ▸ hj)) hleast _

end

/-! ## Counts -/

/-- A double that counts `n` things. It is `n` itself, unless `n` has too many bits for that: then
it is as large as the first such number, or infinite. -/
inductive Tallies (n : ℕ) (x : Float) : Prop where
  | exact (h : Holds n x.toModel.unpack)
  | large (hn : 2 ^ 53 ≤ n) (h : AtLeast 53 x.toModel.unpack)

theorem holds_one : Holds 1 (1.0 : Float).toModel.unpack := by
  exact_mod_cast holds_float_ofNat (n := 1) (isDouble_of_lt (by decide))

namespace Tallies

variable {m n : ℕ} {x y : Float}

theorem atLeast (h : Tallies n x) (hn : 0 < n) : AtLeast 0 x.toModel.unpack := by
  cases h with
  | exact h =>
    refine h.atLeast ?_
    rw [zpow_zero]
    exact_mod_cast hn
  | large _ h => exact h.mono (by decide)

theorem succ (hx : Tallies n x) (hn : 0 < n) : Tallies (n + 1) (x + 1.0) := by
  have hn' : (0 : ℚ) < n := Nat.cast_pos.mpr hn
  cases hx with
  | exact hx =>
    rcases Nat.lt_or_ge (n + 1) (2 ^ 53) with hsmall | hlarge
    · refine .exact (Holds.unpack_pack ?_)
      have hdouble := isDouble_of_lt hsmall
      push_cast at hdouble ⊢
      exact holds_add hx holds_one hn' one_pos hdouble
    · refine .large hlarge (AtLeast.unpack_pack ?_)
      exact atLeast_add hx holds_one hn' one_pos (by exact_mod_cast hlarge) (by decide)
  | large hlarge hx =>
    refine .large (by omega) (AtLeast.unpack_pack ?_)
    exact hx.add (holds_one.atLeast (zpow_zero 2).le) (by decide)

theorem mul (hx : Tallies m x) (hy : Tallies n y) (hm : 0 < m) (hn : 0 < n) :
    Tallies (m * n) (x * y) := by
  have hlow := hx.atLeast hm
  have hlow' := hy.atLeast hn
  cases hx with
  | exact hx =>
    cases hy with
    | exact hy =>
      rcases Nat.lt_or_ge (m * n) (2 ^ 53) with hsmall | hlarge
      · refine .exact (Holds.unpack_pack ?_)
        have hdouble := isDouble_of_lt hsmall
        push_cast at hdouble ⊢
        exact holds_mul hx hy hdouble
      · refine .large hlarge (AtLeast.unpack_pack ?_)
        exact atLeast_mul hx hy (by exact_mod_cast hlarge) (by decide)
    | large hlarge hy =>
      exact .large (hlarge.trans (Nat.le_mul_of_pos_left n hm))
        (hlow.mul hy (by decide)).unpack_pack
  | large hlarge hx =>
    exact .large (hlarge.trans (Nat.le_mul_of_pos_right m hn))
      (hx.mul hlow' (by decide)).unpack_pack

/-- **A bound on a count** can be checked on its double. -/
theorem le_iff (hx : Tallies n x) (hm : m < 2 ^ 53) :
    (x.isFinite = true ∧ ¬ Float.ofNat m < x) ↔ n ≤ m := by
  have hbound := value?_ofNat hm
  cases hx with
  | exact hx =>
    have hvalue := hx.value?
    rw [lt_iff_of_value? hbound hvalue, Nat.cast_lt, Nat.not_lt]
    exact and_iff_right (isFinite_of_value? hvalue)
  | large hlarge hx =>
    refine iff_of_false (fun ⟨hfinite, hnot⟩ => ?_) (by omega)
    obtain ⟨v, hv⟩ := isFinite_iff_value?.mp hfinite
    have hle := hx.le_of_value? hv
    have hlt : (m : ℚ) < 2 ^ 53 := by exact_mod_cast hm
    rw [lt_iff_of_value? hbound hv] at hnot
    exact hnot (hlt.trans_le (by exact_mod_cast hle))

/-- A count that is small enough is exact. -/
theorem value?_eq (hx : Tallies n x) (hn : n < 2 ^ 53) : value? x = some (n : ℚ) := by
  cases hx with
  | exact hx => exact hx.value?
  | large hlarge _ => exact absurd hn hlarge.not_gt

end Tallies

end GeoDrafts.Decimal
