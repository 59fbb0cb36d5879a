import GeoDrafts.Proofs.Decimal.Nearest

/-!
The natural number as which a number with a fraction and a sign is read. It is the number itself,
or it is off by a rounding; for doubles, for large numbers and for fractions of few digits rounding
changes nothing.
-/

namespace GeoDrafts.Decimal

open Float.Model
open Float.Model.UnpackedFloat hiding unpack pack

section
variable {q : ℚ} {x : Float}

/-- A number is rounded to a double of full length, or to one of the smallest. -/
theorem Nears.of_value? {v : ℚ} (h : Nears q x.toModel.unpack) (hv : value? x = some v) :
    v < 2 ^ (-1022 : ℤ) ∧ |q - v| ≤ 2 ^ (-1075 : ℤ) ∨
      ∃ (m : ℕ) (e : ℤ), 2 ^ 52 ≤ m ∧ v = m * 2 ^ e ∧ |q - v| ≤ 2 ^ (e - 1) := by
  unfold value? at hv
  cases hx : x.toModel.unpack with
  | zero s =>
    rw [hx] at h hv
    obtain rfl := Option.some.inj hv
    rw [sub_zero]
    exact .inl ⟨by positivity, h⟩
  | finite s m e hm =>
    rw [hx] at h hv
    cases s with
    | negative => cases h
    | positive =>
      obtain rfl := Option.some.inj hv
      obtain ⟨htarget, herror⟩ := h
      have hdef : target m e = max ((m.log2 : ℤ) + e - 52) (-1074) := rfl
      rcases Nat.lt_or_ge m (2 ^ 52) with hshort | hlong
      · -- Only the smallest doubles have a shorter significand.
        have hlog := (Nat.log2_lt hm.ne').mpr hshort
        obtain rfl : e = -1074 := by omega
        refine .inl ⟨?_, herror⟩
        calc (m : ℚ) * 2 ^ (-1074 : ℤ) < (2 ^ 52 : ℕ) * 2 ^ (-1074 : ℤ) := by gcongr
          _ = 2 ^ (-1022 : ℤ) := by
            rw [Nat.cast_pow, Nat.cast_ofNat, ← zpow_natCast, ← zpow_add₀ two_ne_zero]
            norm_num
      · exact .inr ⟨m, e, hlong, rfl, herror⟩
  | _ =>
    rw [hx] at hv
    cases hv

/-- Rounding is off by one part in `2 ^ 53` at most, except for the smallest doubles. -/
theorem Nears.error {v : ℚ} (h : Nears q x.toModel.unpack) (hv : value? x = some v) :
    v < 2 ^ (-1022 : ℤ) ∧ |q - v| ≤ 2 ^ (-1075 : ℤ) ∨ |q - v| * 2 ^ 53 ≤ v := by
  refine (h.of_value? hv).imp_right ?_
  rintro ⟨m, e, hm, rfl, herror⟩
  calc |q - m * 2 ^ e| * 2 ^ 53 ≤ 2 ^ (e - 1) * 2 ^ 53 := by gcongr
    _ = ((2 ^ 52 : ℕ) : ℚ) * 2 ^ e := by
      rw [zpow_sub_one₀ two_ne_zero]
      push_cast
      ring
    _ ≤ m * 2 ^ e := by gcongr

theorem eq_zero_of_lt_one {n : ℕ} (h : (n : ℚ) < 1) : n = 0 :=
  Nat.lt_one_iff.mp (by exact_mod_cast h)

/-- No natural number but zero is one of the smallest doubles. -/
theorem Nears.natural {n : ℕ} (h : Nears q x.toModel.unpack) (hn : value? x = some (n : ℚ)) :
    n = 0 ∧ |q| ≤ 2 ^ (-1075 : ℤ) ∨ |q - n| * 2 ^ 53 ≤ n := by
  refine (h.error hn).imp_left ?_
  rintro ⟨hsmall, herror⟩
  have hone : (2 : ℚ) ^ (-1022 : ℤ) ≤ 1 := zpow_le_one_of_nonpos₀ (by norm_num) (by norm_num)
  obtain rfl := eq_zero_of_lt_one (hsmall.trans_le hone)
  rw [Nat.cast_zero, sub_zero] at herror
  exact ⟨rfl, herror⟩

/-- A number that is not too large is rounded to some double. -/
theorem Nears.exists_holds (h : Nears q x.toModel.unpack) (hq : q ≤ 10 ^ (308 : ℤ)) :
    ∃ v, Holds v x.toModel.unpack := by
  cases hx : x.toModel.unpack with
  | zero s => exact ⟨0, rfl⟩
  | finite s m e hm =>
    rw [hx] at h
    cases s with
    | negative => cases h
    | positive =>
      have hfinite : x.toModel.isFinite = true := by
        rw [Float.Model.isFinite, hx]
        rfl
      have hbound := exponentAtMost_unpack hfinite
      rw [hx] at hbound
      exact ⟨m * 2 ^ e, h.1, hbound, rfl⟩
  | infinity s =>
    rw [hx] at h
    cases s with
    | positive => exact absurd h hq.not_gt
    | negative => cases h
  | _ =>
    rw [hx] at h
    cases h

theorem Nears.nonneg {v : ℚ} (h : Nears q x.toModel.unpack) (hv : value? x = some v) : 0 ≤ v := by
  unfold value? at hv
  split at hv
  · exact (Option.some.inj hv).le
  · rw [← Option.some.inj hv]
    positivity
  · rename_i heq
    rw [heq] at h
    cases h
  · cases hv

/-- A number of 64 bits is not read for a larger one. -/
theorem Nears.lt_of_value? {n : ℕ} (h : Nears q x.toModel.unpack) (hn : value? x = some (n : ℚ))
    (hlt : n < 2 ^ 64) : q < 2 ^ 64 := by
  rcases h.of_value? hn with ⟨hsmall, herror⟩ | ⟨m, e, hm, hvalue, herror⟩
  · calc q = (q - n) + n := (sub_add_cancel _ _).symm
      _ ≤ 2 ^ (-1075 : ℤ) + 2 ^ (-1022 : ℤ) := by
        gcongr
        exact (le_abs_self _).trans herror
      _ ≤ 1 + 1 := by gcongr <;> exact zpow_le_one_of_nonpos₀ (by norm_num) (by norm_num)
      _ < 2 ^ 64 := by norm_num
  · have hlog : e < 12 := by
      have hlt : (2 : ℚ) ^ (52 + e) < 2 ^ (64 : ℤ) := by
        calc (2 : ℚ) ^ (52 + e) = (2 ^ 52 : ℕ) * 2 ^ e := by
              rw [zpow_add₀ two_ne_zero]
              norm_num
          _ ≤ m * 2 ^ e := by gcongr
          _ = n := hvalue.symm
          _ < 2 ^ (64 : ℤ) := by exact_mod_cast hlt
      have := (zpow_lt_zpow_iff_right₀ (by norm_num : (1 : ℚ) < 2)).mp hlt
      omega
    have hpow : (2 : ℚ) ^ 64 = (2 ^ (64 - e).toNat : ℕ) * 2 ^ e := by
      rw [Nat.cast_pow, Nat.cast_ofNat, ← zpow_natCast, ← zpow_natCast, ← zpow_add₀ two_ne_zero]
      congr 1
      omega
    have hnext : ((m + 1 : ℕ) : ℚ) * 2 ^ e ≤ 2 ^ 64 := by
      have hm' : (m : ℚ) * 2 ^ e < (2 ^ (64 - e).toNat : ℕ) * 2 ^ e := by
        rw [← hvalue, ← hpow]
        exact_mod_cast hlt
      rw [hpow]
      gcongr
      exact Nat.succ_le_of_lt (Nat.cast_lt.mp (lt_of_mul_lt_mul_right hm' (by positivity)))
    have hhalf : (2 : ℚ) ^ (e - 1) < 2 ^ e := by gcongr <;> [norm_num; omega]
    calc q = n + (q - n) := (add_sub_cancel _ _).symm
      _ ≤ n + |q - n| := by gcongr; exact le_abs_self _
      _ < m * 2 ^ e + 2 ^ e := by rw [← hvalue]; gcongr; exact herror.trans_lt hhalf
      _ = (m + 1 : ℕ) * 2 ^ e := by push_cast; ring
      _ ≤ 2 ^ 64 := hnext

theorem eq_of_units {d n : ℕ} (hd : d < 2 ^ 53) (hten : 10 ∣ n)
    (h : |(d : ℚ) - n| * 2 ^ 53 ≤ n) : d = n := by
  have hunits : |(d : ℤ) - n| * 2 ^ 53 ≤ n := by exact_mod_cast h
  have habove := le_abs_self ((d : ℤ) - n)
  have hbelow := neg_le_abs ((d : ℤ) - n)
  generalize |(d : ℤ) - n| = error at hunits habove hbelow
  have hn : n ≤ 2 ^ 53 := by omega
  rcases show error ≤ 0 ∨ error = 1 by omega with hexact | rfl
  · omega
  · omega

/-- A fraction of few digits is not read as a whole number. -/
theorem Nears.decimals {d k n : ℕ} (hd : d < 2 ^ 53) (hk : 0 < k) (hk' : k ≤ 22)
    (h : Nears ((d : ℚ) * 10 ^ (-(k : ℤ))) x.toModel.unpack) (hn : value? x = some (n : ℚ)) :
    (d : ℚ) * 10 ^ (-(k : ℤ)) = n := by
  rw [zpow_neg, zpow_natCast, ← div_eq_mul_inv] at h ⊢
  have hten : (0 : ℚ) < 10 ^ k := by positivity
  rcases h.natural hn with ⟨rfl, hsmall⟩ | herror
  · have hbelow : (d : ℚ) < 1 := by
      calc (d : ℚ) = d / 10 ^ k * 10 ^ k := (div_mul_cancel₀ _ hten.ne').symm
        _ ≤ |(d : ℚ) / 10 ^ k| * 10 ^ k := by gcongr; exact le_abs_self _
        _ ≤ 2 ^ (-1075 : ℤ) * 10 ^ 22 := by gcongr; norm_num
        _ ≤ 2 ^ (-74 : ℤ) * 10 ^ 22 := by gcongr <;> norm_num
        _ < 1 := by norm_num
    rw [eq_zero_of_lt_one hbelow, Nat.cast_zero, zero_div]
  · -- In units of the last digit, rounding is off by less than one.
    have hunits : |(d : ℚ) - (n * 10 ^ k : ℕ)| * 2 ^ 53 ≤ (n * 10 ^ k : ℕ) := by
      calc |(d : ℚ) - (n * 10 ^ k : ℕ)| * 2 ^ 53
          = |(d : ℚ) / 10 ^ k - n| * 10 ^ k * 2 ^ 53 := by
            rw [← abs_of_pos hten, ← abs_mul, abs_of_pos hten, sub_mul, div_mul_cancel₀ _ hten.ne']
            push_cast
            ring
        _ = |(d : ℚ) / 10 ^ k - n| * 2 ^ 53 * 10 ^ k := by ring
        _ ≤ n * 10 ^ k := by gcongr
        _ = (n * 10 ^ k : ℕ) := by push_cast; rfl
    rw [div_eq_iff hten.ne']
    exact_mod_cast eq_of_units hd ((dvd_pow_self 10 hk.ne').mul_left n) hunits

theorem AtLeast.le_of_value? {k : ℤ} {v : ℚ} (h : AtLeast k x.toModel.unpack)
    (hv : value? x = some v) : 2 ^ k ≤ v := by
  unfold value? at hv
  rcases h.cases with hx | ⟨m, e, hm, hx, -, hk⟩
  · rw [hx] at hv
    cases hv
  · rw [hx] at hv
    rw [← Option.some.inj hv]
    exact (le_log2_add_iff hm).mp hk

/-! ## Reading a number -/

/-- A double as which a number may be read. It is near, and it is the number itself if that is a
double; or both are too large for 64 bits. -/
inductive Reads (q : ℚ) (x : Float) : Prop where
  | near (h : Nears q x.toModel.unpack) (hdouble : IsDouble q → Holds q x.toModel.unpack)
  | large (h : AtLeast 64 x.toModel.unpack) (hq : 2 ^ 64 ≤ q)

theorem reads_nearest (digits : ℕ) (e : ℤ) : Reads ((digits : ℚ) * 10 ^ e) (nearest digits e) :=
  .near (nears_nearest digits e) holds_nearest

theorem reads_zero (h : Holds 0 x.toModel.unpack) : Reads 0 x := by
  refine .near ?_ fun _ => h
  cases hx : x.toModel.unpack with
  | zero s => exact nears_zero s
  | finite s m e hm =>
    rw [hx] at h
    cases s with
    | positive =>
      refine ⟨h.1, ?_⟩
      rw [← h.2.2, sub_self, abs_zero]
      positivity
    | negative => cases h
  | _ =>
    rw [hx] at h
    cases h

theorem Reads.nonneg {v : ℚ} (h : Reads q x) (hv : value? x = some v) : 0 ≤ v := by
  cases h with
  | near h => exact h.nonneg hv
  | large h => exact le_trans (by positivity) (h.le_of_value? hv)

/-- Rounding does not change which natural number of 64 bits a number is, if any: it is a double,
it is too large, or it is a fraction of few digits. -/
def Survives (q : ℚ) : Prop :=
  IsDouble q ∨ 2 ^ 64 ≤ q ∨ ∃ d k : ℕ, d < 2 ^ 53 ∧ k ≤ 22 ∧ q = d * 10 ^ (-(k : ℤ))

theorem value?_eq_natural_iff {n : ℕ} (h : Reads q x) (hq : Survives q) (hlt : n < 2 ^ 64) :
    value? x = some (n : ℚ) ↔ q = n := by
  have hcast : (n : ℚ) < 2 ^ 64 := by exact_mod_cast hlt
  -- Neither is a natural number of 64 bits.
  have hlarge : (value? x = some (n : ℚ) → (2 : ℚ) ^ 64 ≤ n ∨ q < 2 ^ 64) → 2 ^ 64 ≤ q →
      (value? x = some (n : ℚ) ↔ q = n) := by
    intro hvalue hq
    constructor
    · intro hn
      exact absurd (hvalue hn) (not_or.mpr ⟨hcast.not_ge, hq.not_gt⟩)
    · rintro rfl
      exact absurd hcast hq.not_gt
  cases h with
  | large h hq =>
    refine hlarge (fun hn => .inl ?_) hq
    have hle := h.le_of_value? hn
    norm_num at hle ⊢
    exact hle
  | near h hdouble =>
    have hdouble : IsDouble q → (value? x = some (n : ℚ) ↔ q = n) := by
      intro hq
      rw [(hdouble hq).value?, Option.some.injEq]
    rcases hq with hq | hq | ⟨d, k, hd, hk, rfl⟩
    · exact hdouble hq
    · exact hlarge (fun hn => .inr (h.lt_of_value? hn hlt)) hq
    · rcases Nat.eq_zero_or_pos k with rfl | hpos
      · refine hdouble ?_
        rw [Nat.cast_zero, neg_zero, zpow_zero, mul_one]
        exact isDouble_of_lt hd
      · refine ⟨h.decimals hd hpos hk, fun heq => (hdouble ?_).mpr heq⟩
        rw [heq]
        refine isDouble_of_lt (lt_of_le_of_lt ?_ hd)
        have hten : (1 : ℚ) ≤ 10 ^ k := one_le_pow₀ (by norm_num)
        rw [zpow_neg, zpow_natCast, ← div_eq_mul_inv] at heq
        have hle : (n : ℚ) ≤ d := heq ▸ div_le_self (Nat.cast_nonneg d) hten
        exact_mod_cast hle

theorem value?_neg_eq_some_iff {n : ℕ} :
    value? (-x) = some (n : ℚ) ↔ value? x = some (-(n : ℚ)) := by
  rw [value?_neg, Option.map_eq_some_iff]
  constructor
  · rintro ⟨v, hv, heq⟩
    rw [hv, ← heq, neg_neg]
  · intro hv
    exact ⟨_, hv, neg_neg _⟩

/-- **Reading a number with a sign** as a natural number, where rounding changes nothing. -/
theorem naturalOfFloat?_signed_iff {n : ℕ} (negative : Bool) (hpos : 0 ≤ q) (h : Reads q x)
    (hq : Survives q) : naturalOfFloat? (if negative then -x else x) = some n ↔
      (if negative then -q else q) = n ∧ n < 2 ^ 64 := by
  rw [naturalOfFloat?_eq_some_iff]
  refine and_congr_left fun hlt => ?_
  cases negative with
  | false => exact value?_eq_natural_iff h hq hlt
  | true =>
    rw [if_pos rfl, if_pos rfl, value?_neg_eq_some_iff, neg_eq_iff_eq_neg]
    rcases Nat.eq_zero_or_pos n with rfl | hn
    · simpa using value?_eq_natural_iff h hq hlt
    · have hn' : (0 : ℚ) < n := Nat.cast_pos.mpr hn
      constructor
      · intro hv
        exact absurd (h.nonneg hv) (by linarith)
      · intro heq
        exact absurd (heq ▸ hpos) (by linarith)

/-- Only zero is read with a minus sign. -/
theorem value?_of_naturalOfFloat?_signed {n : ℕ} {negative : Bool}
    (hpos : ∀ v, value? x = some v → 0 ≤ v)
    (hn : naturalOfFloat? (if negative then -x else x) = some n) :
    value? x = some (n : ℚ) ∧ (negative = true → n = 0) := by
  obtain ⟨hvalue, -⟩ := naturalOfFloat?_eq_some_iff.mp hn
  cases negative with
  | false => exact ⟨hvalue, fun h => absurd h Bool.false_ne_true⟩
  | true =>
    rw [if_pos rfl, value?_neg_eq_some_iff] at hvalue
    have hle := hpos _ hvalue
    obtain rfl : n = 0 := eq_zero_of_lt_one (by linarith)
    rw [Nat.cast_zero, neg_zero] at hvalue
    exact ⟨by exact_mod_cast hvalue, fun _ => rfl⟩

theorem abs_signed (negative : Bool) : |if negative then -q else q| = |q| := by
  cases negative with
  | false => rfl
  | true => exact abs_neg q

theorem abs_signed_sub {n : ℕ} {negative : Bool} (h : negative = true → n = 0) :
    |(if negative then -q else q) - n| = |q - n| := by
  cases negative with
  | false => rfl
  | true =>
    obtain rfl := h rfl
    rw [if_pos rfl, Nat.cast_zero, sub_zero, sub_zero, abs_neg]

/-- Reading any number with a sign as a natural number is off by a rounding only. -/
theorem error_of_naturalOfFloat?_signed {n : ℕ} {negative : Bool} (h : Nears q x.toModel.unpack)
    (hn : naturalOfFloat? (if negative then -x else x) = some n) :
    n = 0 ∧ |if negative then -q else q| ≤ 2 ^ (-1075 : ℤ) ∨
      |(if negative then -q else q) - n| * 2 ^ 53 ≤ n := by
  obtain ⟨hvalue, hzero⟩ := value?_of_naturalOfFloat?_signed (fun _ hv => h.nonneg hv) hn
  rw [abs_signed, abs_signed_sub hzero]
  exact h.natural hvalue

end

end GeoDrafts.Decimal
