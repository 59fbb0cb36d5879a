import GeoDrafts.Proofs.Decimal.Error
import GeoDrafts.Proofs.Json.Literal

/-!
Literals of any length. Digits that do not fit a significand are dropped, and then the significand,
the power of ten and their product or quotient are rounded. So what is read of a literal differs
from it by a few parts in `2 ^ 53`.
-/

namespace GeoDrafts.Json

open Decimal
open Float.Model
open Float.Model.UnpackedFloat hiding unpack pack

/-! ## Powers of ten -/

/-- A power of ten in the range of doubles is off by one part. -/
theorem exists_power {k : ℕ} (hk : k ≤ 308) :
    ∃ b, Holds b (Float.ofScientific 1 false k).toModel.unpack ∧
      Within (1 / 2 ^ 53) (10 ^ k) b := by
  have hnears := nears_ofScientific 1 false k
  rw [if_neg Bool.false_ne_true, Nat.cast_one, one_mul, zpow_natCast] at hnears
  refine hnears.exists_within (one_le_pow₀ (by norm_num)) ?_
  rw [← zpow_natCast]
  gcongr
  · norm_num
  · exact_mod_cast hk

section
variable {x : Float} {a : ℚ}

/-- What is left of a double that is divided by a power of ten. -/
theorem exists_nears_div_power (hx : Holds a x.toModel.unpack) {k : ℕ} (hk : k ≤ 308) {j : ℤ}
    (ha : 2 * a ≤ 2 ^ j * 10 ^ k) :
    ∃ c, Nears c (x / Float.ofScientific 1 false k).toModel.unpack ∧ c ≤ 2 ^ j := by
  obtain ⟨b, hb, hwithin⟩ := exists_power hk
  have hten : (0 : ℚ) < 10 ^ k := by positivity
  have hle := hwithin.le_two_mul (by norm_num) hten.le
  have hpos : 0 < b := by linarith
  refine ⟨a / b, (nears_div hx hb hpos.ne').unpack_pack, ?_⟩
  have hlarge : (2 : ℚ) ^ j * 10 ^ k ≤ 2 ^ j * (2 * b) := by gcongr
  rw [div_le_iff₀ hpos]
  linarith

/-- One step of the division leaves a small number. -/
theorem exists_holds_div_power (hx : Holds a x.toModel.unpack) (ha : a ≤ 2 ^ (65 : ℤ)) :
    ∃ v, Holds v (x / Float.ofScientific 1 false 308).toModel.unpack ∧ v ≤ 2 ^ (-902 : ℤ) := by
  have hsize : 2 ^ 969 ≤ 10 ^ 308 := by decide +kernel
  have hlarge : 2 * a ≤ 2 ^ (-903 : ℤ) * 10 ^ 308 := by
    calc 2 * a ≤ 2 * 2 ^ (65 : ℤ) := by gcongr
      _ = 2 ^ (-903 : ℤ) * 2 ^ (969 : ℤ) := by
        rw [← zpow_one_add₀ two_ne_zero, ← zpow_add₀ two_ne_zero]
        rfl
      _ ≤ 2 ^ (-903 : ℤ) * 10 ^ 308 := by
        gcongr
        exact_mod_cast hsize
  obtain ⟨c, hc, hsmall⟩ := exists_nears_div_power hx le_rfl hlarge
  have hone : (2 : ℚ) ^ (-903 : ℤ) ≤ 1 := zpow_le_one_of_nonpos₀ (by norm_num) (by norm_num)
  have hfits : c ≤ 10 ^ (308 : ℤ) :=
    hsmall.trans (hone.trans (one_le_zpow₀ (by norm_num) (by norm_num)))
  obtain ⟨v, hv⟩ := hc.exists_holds hfits
  exact ⟨v, hv, hc.le_of_value? hv.value? (by norm_num) hsmall⟩

/-- What is left of a small number is below one: each step of the division keeps it small. -/
theorem value?_divideByPower (hx : Holds a x.toModel.unpack) (ha : a ≤ 2 ^ (-902 : ℤ)) {k : ℕ}
    {v : ℚ} (hv : value? (divideByPower x k) = some v) : 0 ≤ v ∧ v < 1 := by
  induction x, k using divideByPower.induct generalizing a with
  | case1 x k hk =>
    rw [divideByPower, if_pos hk] at hv
    have hsmall : 2 * a ≤ 2 ^ (-901 : ℤ) * 10 ^ k := by
      calc 2 * a ≤ 2 * 2 ^ (-902 : ℤ) := by gcongr
        _ = 2 ^ (-901 : ℤ) := by
          rw [← zpow_one_add₀ two_ne_zero]
          rfl
        _ ≤ 2 ^ (-901 : ℤ) * 10 ^ k :=
          le_mul_of_one_le_right (by positivity) (one_le_pow₀ (by norm_num))
    obtain ⟨c, hc, hle⟩ := exists_nears_div_power hx hk hsmall
    refine ⟨hc.nonneg hv, (hc.le_of_value? hv (by norm_num) hle).trans_lt ?_⟩
    exact zpow_lt_one_of_neg₀ (by norm_num) (by norm_num)
  | case2 x k hk hzero =>
    rw [divideByPower, if_neg hk, if_pos hzero, hx.value?] at hv
    obtain rfl := Option.some.inj hv
    exact ⟨hx.nonneg, ha.trans_lt (zpow_lt_one_of_neg₀ (by norm_num) (by norm_num))⟩
  | case3 x k hk hne ih =>
    rw [divideByPower, if_neg hk, if_neg hne] at hv
    obtain ⟨v', hv', hle⟩ := exists_holds_div_power hx
      (ha.trans (zpow_le_zpow_right₀ (by norm_num) (by norm_num)))
    exact ih hv' hle hv

/-- An exponent below the table of powers leaves less than one of any significand. -/
theorem value?_divideByPower_of_far (hx : Holds a x.toModel.unpack) (ha : a ≤ 2 ^ (65 : ℤ)) {k : ℕ}
    (hk : 308 < k) {v : ℚ} (hv : value? (divideByPower x k) = some v) : 0 ≤ v ∧ v < 1 := by
  rw [divideByPower, if_neg hk.not_ge] at hv
  split at hv
  · rename_i hzero
    obtain rfl := Option.some.inj (hx.value?.symm.trans hv)
    refine ⟨hx.nonneg, lt_of_not_ge fun hone => ?_⟩
    rw [beq_zero_of_pos hx (one_pos.trans_le hone)] at hzero
    cases hzero
  · obtain ⟨v', hv', hle⟩ := exists_holds_div_power hx ha
    exact value?_divideByPower hv' hle hv

end

/-! ## Scaling -/

/-- Digits far behind the point. -/
theorem mul_zpow_le_of_small {s : ℕ} {e : ℤ} (hs : s < 2 ^ 64) (he : e < -308) :
    (s : ℚ) * 10 ^ e ≤ 2 ^ (-901 : ℤ) := by
  have hsize : 2 ^ 965 ≤ 10 ^ 309 := by decide +kernel
  have hten : (10 : ℚ) ^ (-309 : ℤ) ≤ 2 ^ (-965 : ℤ) := by
    rw [zpow_neg, zpow_neg]
    refine inv_anti₀ (by positivity) ?_
    exact_mod_cast hsize
  calc (s : ℚ) * 10 ^ e ≤ 2 ^ (64 : ℤ) * 10 ^ (-309 : ℤ) := by
        gcongr
        · exact_mod_cast hs.le
        · norm_num
        · omega
    _ ≤ 2 ^ (64 : ℤ) * 2 ^ (-965 : ℤ) := by gcongr
    _ = 2 ^ (-901 : ℤ) := by
      rw [← zpow_add₀ two_ne_zero]
      rfl

/-- **The error of scaling.** The significand may be off itself, by the digits that are dropped. -/
theorem approximates_scaled? {q : ℚ} {s : ℕ} {e : ℤ} {y : Float} (hs : s < 2 ^ 64) (hq : 0 ≤ q)
    (hwithin : Within (1 / 2 ^ 60) q (s * 10 ^ e)) (h : scaled? s e = some y) :
    Approximates q y := by
  have hlarge := hwithin.le_two_mul (by norm_num) hq
  rcases Nat.eq_zero_or_pos s with rfl | hpos
  · rw [Nat.cast_zero, zero_mul, mul_zero] at hlarge
    exact (holds_scaled?_zero h).approximates_of_nonpos hlarge
  have hone : (1 : ℚ) ≤ s := by exact_mod_cast hpos
  have hfits : (s : ℚ) ≤ 10 ^ (308 : ℤ) := by
    calc (s : ℚ) ≤ 10 ^ (20 : ℤ) := by exact_mod_cast hs.le.trans (by norm_num)
      _ ≤ 10 ^ (308 : ℤ) := by gcongr <;> norm_num
  obtain ⟨a, ha, hs'⟩ := (nears_ofNat s).exists_within hone hfits
  -- The significand and the power are rounded first, then what is made of them.
  have hparts : ∀ {c : ℚ}, Nears c y.toModel.unpack → 0 ≤ c →
      Within (1 / 2 ^ 53 + 1 / 2 ^ 53) (s * 10 ^ e) c → Approximates q y := by
    intro c hc hnonneg hscaled
    exact hc.approximates (hwithin.trans hscaled (by norm_num) (by norm_num) hq hnonneg)
      (by norm_num) hq
  obtain ⟨hfinite, ⟨hneg, rfl⟩ | ⟨hnonneg, hnear, rfl⟩ | ⟨hfar, rfl⟩⟩ := scaled?_cases h
  · rcases Nat.lt_or_ge 308 e.natAbs with hfar | hnear
    · intro v hv
      have ha' : a ≤ 2 ^ (65 : ℤ) := by
        calc a ≤ 2 * s := hs'.symm.le_two_mul (by norm_num) ha.nonneg
          _ ≤ 2 * 2 ^ (64 : ℤ) := by
            gcongr
            exact_mod_cast hs.le
          _ = 2 ^ (65 : ℤ) := by norm_num
      obtain ⟨hnonneg, hlt⟩ := value?_divideByPower_of_far ha ha' hfar hv
      refine ⟨hnonneg, .inl ⟨hlt, ?_⟩⟩
      calc q ≤ 2 * (s * 10 ^ e) := hlarge
        _ ≤ 2 * 2 ^ (-901 : ℤ) := by
          gcongr
          exact mul_zpow_le_of_small hs (by omega)
        _ = 2 ^ (-900 : ℤ) := by
          rw [← zpow_one_add₀ two_ne_zero]
          rfl
    · obtain ⟨b, hb, hpower⟩ := exists_power hnear
      have hten : (0 : ℚ) < 10 ^ e.natAbs := by positivity
      have hb' : 0 < b := by linarith [hpower.le_two_mul (by norm_num) hten.le]
      have hvalue : (s : ℚ) * 10 ^ e = s * (10 ^ e.natAbs)⁻¹ := by
        rw [← zpow_natCast, Int.natCast_natAbs, abs_of_neg hneg, zpow_neg, inv_inv]
      rw [divideByPower, if_pos hnear] at hparts ⊢
      refine hparts (nears_div ha hb hb'.ne').unpack_pack (div_nonneg ha.nonneg hb'.le) ?_
      rw [hvalue, div_eq_mul_inv]
      exact hs'.mul (hpower.inv hten hb') (by norm_num) (by norm_num) (by positivity)
        (by positivity) ha.nonneg (inv_nonneg.mpr hb'.le)
  · obtain ⟨k, rfl⟩ := Int.eq_ofNat_of_zero_le hnonneg
    obtain ⟨b, hb, hpower⟩ := exists_power (k := k) (by omega)
    refine hparts (nears_mul ha hb).unpack_pack (mul_nonneg ha.nonneg hb.nonneg) ?_
    rw [zpow_natCast]
    exact hs'.mul hpower (by norm_num) (by norm_num) (by positivity) (by positivity) ha.nonneg
      hb.nonneg
  · have ha' : 0 < a := by linarith [hs'.le_two_mul (by norm_num) (by positivity)]
    rw [beq_zero_of_pos ha ha', if_neg Bool.false_ne_true] at hfinite
    exact absurd hfinite (by decide +kernel)

/-! ## Dropped digits -/

theorem digitValue_le {c : Char} (h : c.isDigit = true) : digitValue c ≤ 9 := by
  have hhigh : c.toNat ≤ 57 := by
    simp only [Char.isDigit, Bool.and_eq_true, decide_eq_true_eq] at h
    exact h.2
  rw [digitValue]
  omega

theorem appendDigits_append (n : ℕ) (cs ds : List Char) :
    appendDigits n (cs ++ ds) = appendDigits (appendDigits n cs) ds := List.foldl_append

/-- The first digits of a number say within which bounds it is. -/
theorem appendDigits_bounds {cs : List Char} (h : ∀ c ∈ cs, c.isDigit = true) (n : ℕ) :
    n * 10 ^ cs.length ≤ appendDigits n cs ∧ appendDigits n cs < (n + 1) * 10 ^ cs.length := by
  induction cs generalizing n with
  | nil => exact ⟨(Nat.mul_one n).le, by simp [appendDigits]⟩
  | cons c cs ih =>
    obtain ⟨hc, hcs⟩ := List.forall_mem_cons.mp h
    obtain ⟨hlow, hhigh⟩ := ih hcs (10 * n + digitValue c)
    have hdigit := digitValue_le hc
    rw [List.length_cons, pow_succ']
    change _ ≤ appendDigits (10 * n + digitValue c) cs ∧ appendDigits (10 * n + digitValue c) cs < _
    constructor
    · calc n * (10 * 10 ^ cs.length) = 10 * n * 10 ^ cs.length := by ring
        _ ≤ (10 * n + digitValue c) * 10 ^ cs.length := by gcongr; omega
        _ ≤ _ := hlow
    · calc _ < (10 * n + digitValue c + 1) * 10 ^ cs.length := hhigh
        _ ≤ (10 * (n + 1)) * 10 ^ cs.length := by gcongr; omega
        _ = (n + 1) * (10 * 10 ^ cs.length) := by ring

/-- The digits that are taken come first. Those that are left are none, or the significand has no
room for another one. -/
theorem takeDigits_spec {cs : List Char} (h : ∀ c ∈ cs, c.isDigit = true) {n : ℕ}
    (hn : n ≤ maxSignificand) :
    ∃ taken rest, cs = taken ++ rest ∧ takeDigits n cs = (appendDigits n taken, rest) ∧
      appendDigits n taken ≤ maxSignificand ∧
      (rest = [] ∨ maxSignificand < 10 * appendDigits n taken + 10) := by
  induction cs generalizing n with
  | nil => exact ⟨[], [], rfl, rfl, hn, .inl rfl⟩
  | cons c cs ih =>
    obtain ⟨hc, hcs⟩ := List.forall_mem_cons.mp h
    by_cases hfits : 10 * n + digitValue c ≤ maxSignificand
    · obtain ⟨taken, rest, rfl, htake, hmax, hrest⟩ := ih hcs hfits
      refine ⟨c :: taken, rest, rfl, ?_, hmax, hrest⟩
      rw [takeDigits, if_pos hfits, htake]
      rfl
    · refine ⟨[], c :: cs, rfl, ?_, hn, .inr ?_⟩
      · rw [takeDigits, if_neg hfits]
        rfl
      · have hdigit := digitValue_le hc
        change maxSignificand < 10 * n + 10
        omega

theorem within_of_bounds {n : ℕ} (hn : 2 ^ 60 ≤ n) {t x y : ℚ} (ht : 0 ≤ t)
    (hx : n * t ≤ x ∧ x ≤ (n + 1) * t) (hy : n * t ≤ y ∧ y ≤ (n + 1) * t) :
    Within (1 / 2 ^ 60) x y := by
  have hlarge : (2 : ℚ) ^ 60 ≤ n := by exact_mod_cast hn
  have hpart : (1 - 1 / 2 ^ 60) * ((n + 1) * t) ≤ n * t := by
    rw [← mul_assoc]
    gcongr
    linarith
  have hrest : (0 : ℚ) ≤ 1 - 1 / 2 ^ 60 := by norm_num
  exact ⟨(mul_le_mul_of_nonneg_left hx.2 hrest).trans (hpart.trans hy.1),
    (mul_le_mul_of_nonneg_left hy.2 hrest).trans (hpart.trans hx.1)⟩

/-- Numbers with the same first digits differ little, wherever their points are. -/
theorem within_of_prefix {n : ℕ} (hn : maxSignificand < 10 * n + 10) {cs ds : List Char}
    (hcs : ∀ c ∈ cs, c.isDigit = true) (hds : ∀ c ∈ ds, c.isDigit = true) (e : ℤ) :
    Within (1 / 2 ^ 60) (appendDigits n cs * 10 ^ (e - cs.length))
      (appendDigits n ds * 10 ^ (e - ds.length)) := by
  have hmax : maxSignificand = 2 ^ 64 - 1 := rfl
  have hbounds : ∀ {cs : List Char}, (∀ c ∈ cs, c.isDigit = true) →
      (n : ℚ) * 10 ^ e ≤ appendDigits n cs * 10 ^ (e - cs.length) ∧
        appendDigits n cs * 10 ^ (e - cs.length) ≤ ((n : ℚ) + 1) * 10 ^ e := by
    intro cs hcs
    obtain ⟨hlow, hhigh⟩ := appendDigits_bounds hcs n
    have hpow : (10 : ℚ) ^ e = 10 ^ cs.length * 10 ^ (e - cs.length) := by
      rw [← zpow_natCast, ← zpow_add₀ (by norm_num)]
      congr 1
      ring
    rw [hpow, ← mul_assoc, ← mul_assoc]
    constructor
    · gcongr
      exact_mod_cast hlow
    · gcongr
      exact_mod_cast hhigh.le
  exact within_of_bounds (by omega) (by positivity) (hbounds hcs) (hbounds hds)

/-- **The error of the significand** of a literal. -/
theorem Literal.within_significand {l : Literal}
    (h : ∀ d ∈ l.whole ++ l.fraction, d.isDigit = true) :
    ∃ (s : ℕ) (e : ℤ), l.significand = (s, e) ∧ s < 2 ^ 64 ∧
      Within (1 / 2 ^ 60) (l.digits * 10 ^ (-(l.fraction.length : ℤ))) (s * 10 ^ e) := by
  obtain ⟨hwhole, hfraction⟩ := List.forall_mem_append.mp h
  have hmax : maxSignificand = 2 ^ 64 - 1 := rfl
  obtain ⟨taken, rest, hw, htake, hfits, hrest⟩ := takeDigits_spec hwhole (Nat.zero_le _)
  obtain ⟨taken', rest', hf, htake', hfits', hrest'⟩ := takeDigits_spec hfraction hfits
  refine ⟨appendDigits (appendDigits 0 taken) taken', rest.length - taken'.length, ?_, by omega, ?_⟩
  · rw [significand, htake]
    dsimp only
    rw [htake', hf, List.length_append, Nat.add_sub_cancel]
  have htaken' : ∀ d ∈ taken', d.isDigit = true := fun d hd =>
    hfraction d (hf ▸ List.mem_append_left _ hd)
  rw [digits_eq]
  rcases hrest with rfl | hfull
  · -- All whole digits are taken, so what is left is the end of the fraction.
    rw [List.append_nil] at hw
    rw [hw, List.length_nil, Nat.cast_zero, zero_sub]
    rcases hrest' with rfl | hfull'
    · rw [List.append_nil] at hf
      rw [hf]
      exact .refl (by norm_num) (by positivity)
    · have hrest' : ∀ d ∈ rest', d.isDigit = true := fun d hd =>
        hfraction d (hf ▸ List.mem_append_right _ hd)
      have hnone : ∀ d ∈ ([] : List Char), d.isDigit = true := by simp
      have hprefix := within_of_prefix hfull' hrest' hnone (-(taken'.length : ℤ))
      rw [hf, appendDigits_append, List.length_append, Nat.cast_add, neg_add, ← sub_eq_add_neg]
      simpa [appendDigits] using hprefix
  · have hleft : ∀ d ∈ rest ++ l.fraction, d.isDigit = true := by
      refine List.forall_mem_append.mpr ⟨fun d hd => ?_, hfraction⟩
      exact hwhole d (hw ▸ List.mem_append_right _ hd)
    have hprefix := within_of_prefix hfull hleft htaken' rest.length
    rw [appendDigits_append, List.length_append, Nat.cast_add, sub_add_cancel_left] at hprefix
    rwa [hw, appendDigits_append]

/-! ## The error of a literal -/

namespace Literal

variable {l : Literal}

/-- The double of a literal. An exponent below 32 bits makes it zero, whatever the digits are. -/
theorem approximates_size? (hdigits : ∀ d ∈ l.whole ++ l.fraction, d.isDigit = true) {y : Float}
    (h : l.size? = some y) :
    Approximates l.size y ∨ l.writtenExponent ≤ -2 ^ 31 ∧ Holds 0 y.toModel.unpack := by
  have hlimit : Nat.pow 2 31 = 2 ^ 31 := rfl
  have hzero : Holds 0 (0.0 : Float).toModel.unpack := rfl
  obtain ⟨s, e, hsignificand, hs, hwithin⟩ := within_significand hdigits
  have hsize : Within (1 / 2 ^ 60) l.size (s * 10 ^ (e + l.writtenExponent)) := by
    have hscaled := hwithin.mul_right (a := 10 ^ l.writtenExponent) (by positivity)
    rw [mul_assoc, mul_assoc, ← zpow_add₀ (by norm_num), ← zpow_add₀ (by norm_num)] at hscaled
    rwa [size, power, sub_eq_neg_add]
  rw [size?, hsignificand] at h
  dsimp only at h
  split at h
  · split at h
    · rename_i hnone
      cases h
      have hle := hsize.le_two_mul (by norm_num) l.size_nonneg
      rw [hnone, Nat.cast_zero, zero_mul, mul_zero] at hle
      exact .inl (hzero.approximates_of_nonpos hle)
    · cases h
  split at h
  · rename_i hsmall
    cases h
    exact .inr ⟨by omega, hzero⟩
  · exact .inl (approximates_scaled? hs l.size_nonneg hsize h)

/-- **The error of the index of a literal** in a document. -/
theorem error_of_number? (hdigits : ∀ d ∈ l.whole ++ l.fraction, d.isDigit = true) {x : Number}
    (h : l.number? = some x) {n : ℕ} (hn : (Json.number x).index? = some n) :
    n = 0 ∧ (|l.value| ≤ 2 ^ (-900 : ℤ) ∨ l.writtenExponent ≤ -2 ^ 31) ∨
      |l.value - n| * 2 ^ 50 ≤ n := by
  obtain ⟨y, hx, hy⟩ := toFloat_of_number? h
  have hsize : Approximates l.size y ∨ l.writtenExponent ≤ -2 ^ 31 ∧ Holds 0 y.toModel.unpack := by
    rcases hy with ⟨m, hsize, rfl⟩ | hy
    · rw [hsize]
      exact .inl ((nears_ofNat m).approximates (.refl le_rfl m.cast_nonneg) (by norm_num)
        m.cast_nonneg)
    · exact approximates_size? hdigits hy
  rw [index?_number, hx] at hn
  rcases hsize with hsize | ⟨hwritten, hzero⟩
  · obtain ⟨hvalue, hsign⟩ := value?_of_naturalOfFloat?_signed (fun v hv => (hsize v hv).1) hn
    rw [value, abs_signed, abs_signed_sub hsign, abs_of_nonneg l.size_nonneg]
    exact (hsize.natural l.size_nonneg hvalue).imp_left fun hsmall => ⟨hsmall.1, .inl hsmall.2⟩
  · have hpos : ∀ v, value? y = some v → 0 ≤ v := fun v hv =>
      (Option.some.inj (hzero.value?.symm.trans hv)).le
    obtain ⟨hvalue, -⟩ := value?_of_naturalOfFloat?_signed hpos hn
    have hcast := Option.some.inj (hzero.value?.symm.trans hvalue)
    exact .inl ⟨by exact_mod_cast hcast.symm, .inr hwritten⟩

end Literal

end GeoDrafts.Json
