import GeoDrafts.Decimal.Dyadic
import GeoDrafts.Proofs.Decimal.Exact

/-!
The exact value of a double. The natural number that a double is taken for is its value.
-/

namespace GeoDrafts.Decimal

open Float.Model
open Float.Model.UnpackedFloat hiding unpack pack

def value? (x : Float) : Option ℚ :=
  match x.toModel.unpack with
  | .zero _ => some 0
  | .finite .positive m e _ => some (m * 2 ^ e)
  | .finite .negative m e _ => some (-(m * 2 ^ e))
  | _ => none

theorem Holds.value? {q : ℚ} {x : Float} (h : Holds q x.toModel.unpack) : value? x = some q := by
  unfold Decimal.value?
  rcases h.cases with ⟨s, hx, rfl⟩ | ⟨m, e, hm, hx, -, -, rfl⟩ <;> rw [hx]

/-! ## The fields of a pattern -/

section
variable (bits : UInt64)

theorem field_eq :
    ((bits >>> 52) &&& 0x7FF).toNat = (@unpackExponent .binary64 bits.toBitVec).toNat := by
  have hmask : (2047 : ℕ) = 2 ^ 11 - 1 := rfl
  rw [unpackExponent_def, BitVec.extractLsb'_toNat]
  simp only [UInt64.toNat_and, UInt64.toNat_shiftRight, UInt64.reduceToNat, Nat.reduceMod,
    UInt64.toNat_toBitVec]
  rw [hmask, Nat.and_two_pow_sub_one_eq_mod]

theorem fraction_eq :
    (bits &&& 0xFFFFFFFFFFFFF).toNat = (@unpackMantissa .binary64 bits.toBitVec).toNat := by
  have hmask : (4503599627370495 : ℕ) = 2 ^ 52 - 1 := rfl
  rw [unpackMantissa_def, BitVec.extractLsb'_toNat]
  simp only [UInt64.toNat_and, UInt64.reduceToNat, UInt64.toNat_toBitVec, Nat.shiftRight_zero]
  rw [hmask, Nat.and_two_pow_sub_one_eq_mod]

end

/-- The significand and the exponent of a double, in normal form. -/
theorem unpack_eq_ofFloat {x : Float} (h : x.isFinite = true) :
    let d := Dyadic.ofFloat x
    (d.significand < 2 ^ 53 ∧ -1074 ≤ d.exponent ∧ d.exponent ≤ 971 ∧
      (d.exponent = -1074 ∨ 2 ^ 52 ≤ d.significand)) ∧
    ∃ s, x.toModel.unpack =
      if hm : 0 < d.significand then .finite s d.significand d.exponent hm else .zero s := by
  have hlt := (isFinite_unpack x.toBits.toBitVec).mp h
  have hones : @unpackExponent .binary64 x.toBits.toBitVec ≠ -1#11 := by
    intro hones
    rw [hones] at hlt
    exact absurd hlt (by decide)
  have hunpack := unpack_packComponents (Sign.ofBitVec (@unpackSign .binary64 x.toBits.toBitVec))
    hones (@unpackMantissa .binary64 x.toBits.toBitVec)
  rw [packComponents_unpackSign_unpackExponent_unpackMantissa] at hunpack
  change x.toModel.unpack = _ at hunpack
  unfold Dyadic.ofFloat Dyadic.ofBits
  dsimp only
  rw [field_eq, fraction_eq, hunpack]
  generalize @unpackExponent .binary64 x.toBits.toBitVec = field at hlt
  generalize @unpackMantissa .binary64 x.toBits.toBitVec = fraction
  generalize Sign.ofBitVec (@unpackSign .binary64 x.toBits.toBitVec) = s
  have hfraction : fraction.toNat < 2 ^ 52 := fraction.isLt
  by_cases hzero : field = 0#11
  · have hfield : field.toNat = 0 := congrArg BitVec.toNat hzero
    rw [if_pos hzero, if_pos hfield]
    dsimp only
    refine ⟨⟨by omega, le_rfl, by omega, .inl rfl⟩, s, ?_⟩
    by_cases hm : fraction = 0#52
    · rw [dif_pos hm, dif_neg]
      rw [hm]
      decide
    · rw [dif_neg hm, dif_pos]
  · have hfield : field.toNat ≠ 0 := fun hnone => hzero (BitVec.eq_of_toNat_eq hnone)
    have hpow : Nat.pow 2 52 = 2 ^ 52 := rfl
    rw [if_neg hzero, if_neg hfield]
    dsimp only
    refine ⟨⟨by omega, by omega, by omega, .inr (by omega)⟩, s, ?_⟩
    rw [dif_pos (by omega)]
    rfl

theorem lt_zero_iff (x : Float) :
    x < 0.0 ↔ x.toModel.unpack.lt (.zero .positive) = true := by
  have hzero : (0.0 : Float).toModel.unpack = .zero .positive := by rfl
  rw [← hzero]
  exact decide_eq_true_iff

/-- What a finite double is, by its sign. -/
theorem value?_eq {x : Float} (h : x.isFinite = true) :
    let d := Dyadic.ofFloat x
    let size : ℚ := d.significand * 2 ^ d.exponent
    (value? x = some size ∧ ¬ x < 0.0) ∨ (value? x = some (-size) ∧ 0 < size ∧ x < 0.0) := by
  intro d size
  obtain ⟨-, s, hunpack⟩ := unpack_eq_ofFloat h
  rw [lt_zero_iff, value?, hunpack]
  by_cases hm : 0 < (Dyadic.ofFloat x).significand
  · rw [dif_pos hm]
    cases s with
    | positive => exact .inl ⟨rfl, Bool.false_ne_true⟩
    | negative =>
      refine .inr ⟨rfl, ?_, rfl⟩
      have hm' : (0 : ℚ) < d.significand := by exact_mod_cast hm
      positivity
  · have hsize : size = 0 := by
      have hzero : d.significand = 0 := Nat.eq_zero_of_not_pos hm
      simp [size, hzero]
    rw [dif_neg hm, hsize]
    exact .inl ⟨rfl, Bool.false_ne_true⟩

theorem isFinite_of_value? {x : Float} {q : ℚ} (h : value? x = some q) : x.isFinite = true := by
  change x.toModel.unpack.isFinite = true
  unfold value? at h
  split at h
  case h_4 => cases h
  all_goals
    rename_i heq
    rw [heq]
    rfl

theorem isDouble_of_value? {x : Float} {q : ℚ} (h : value? x = some q) : IsDouble q := by
  have hfinite := isFinite_of_value? h
  obtain ⟨⟨hm, hleast, he, -⟩, -⟩ := unpack_eq_ofFloat hfinite
  refine ⟨(Dyadic.ofFloat x).significand, (Dyadic.ofFloat x).exponent, hm, hleast, he, ?_⟩
  rcases value?_eq hfinite with ⟨hvalue, -⟩ | ⟨hvalue, -, -⟩
  · obtain rfl := Option.some.inj (h.symm.trans hvalue)
    exact abs_of_nonneg (by positivity)
  · obtain rfl := Option.some.inj (h.symm.trans hvalue)
    rw [abs_neg]
    exact abs_of_nonneg (by positivity)

/-- **The natural number that a double is** is its value. -/
theorem naturalOfFloat?_eq_some_iff {x : Float} {n : ℕ} :
    naturalOfFloat? x = some n ↔ value? x = some (n : ℚ) ∧ n < 2 ^ 64 := by
  let d := Dyadic.ofFloat x
  have hwhole : ∀ k : ℕ, (k : ℚ) = d.significand * 2 ^ d.exponent ↔
      d.significand * d.scaleUp = k * d.scaleDown := fun k => natCast_eq_iff
  have hdown : 0 < d.scaleDown := Nat.two_pow_pos _
  unfold naturalOfFloat?
  constructor
  · intro h
    dsimp only at h
    rw [Option.ite_none_right_eq_some, Option.ite_none_right_eq_some, Option.some.injEq,
      Bool.and_eq_true, Bool.and_eq_true, decide_eq_true_iff, Bool.not_eq_true',
      decide_eq_false_iff_not] at h
    obtain ⟨⟨hfinite, hnonneg⟩, ⟨hdvd, hlt⟩, rfl⟩ := h
    rcases value?_eq hfinite with ⟨hvalue, -⟩ | ⟨-, -, hneg⟩
    · refine ⟨?_, hlt⟩
      rw [hvalue, Option.some.injEq, eq_comm, hwhole]
      exact (Nat.div_mul_cancel (Nat.dvd_of_mod_eq_zero (beq_iff_eq.mp hdvd))).symm
    · exact absurd hneg hnonneg
  · rintro ⟨hvalue, hlt⟩
    have hfinite := isFinite_of_value? hvalue
    rcases value?_eq hfinite with ⟨hsize, hnonneg⟩ | ⟨hsize, hpos, -⟩
    · have hproduct := (hwhole n).mp (Option.some.inj (hvalue.symm.trans hsize))
      have hfloor : d.floor = n := by
        rw [Dyadic.floor, hproduct, Nat.mul_div_cancel _ hdown]
      have hisWhole : d.isWhole = true := by
        rw [Dyadic.isWhole, hproduct, Nat.mul_mod_left]
        rfl
      dsimp only
      rw [if_pos (by rw [hfinite, decide_eq_false hnonneg]; rfl), if_pos, hfloor]
      rw [hisWhole, hfloor]
      exact decide_eq_true hlt
    · have hneg := Option.some.inj (hvalue.symm.trans hsize)
      have hn : (0 : ℚ) ≤ n := Nat.cast_nonneg n
      rw [hneg] at hn
      exact absurd hn (not_le.mpr (neg_lt_zero.mpr hpos))

/-- A finite double is in normal form. -/
theorem form_of_unpack {x : Float} {s : Sign} {m : ℕ} {e : ℤ} {hm : 0 < m}
    (hx : x.toModel.unpack = .finite s m e hm) : e = target m e ∧ e ≤ 971 := by
  have hfinite : x.isFinite = true := by
    change x.toModel.unpack.isFinite = true
    rw [hx]
    rfl
  obtain ⟨⟨hlt, hleast, he, hnormal⟩, s', hunpack⟩ := unpack_eq_ofFloat hfinite
  rw [hx] at hunpack
  split at hunpack
  · cases hunpack
    exact ⟨(target_eq_self hlt hleast hnormal).symm, he⟩
  · cases hunpack

/-- The negative of a double is exact. -/
theorem value?_neg (x : Float) : value? (-x) = (value? x).map fun q => -q := by
  have hneg : (-x).toModel.unpack = (Float.Model.pack x.toModel.unpack.neg).unpack := rfl
  unfold value?
  rw [hneg]
  cases hx : x.toModel.unpack with
  | zero s =>
    have hpack : (Float.Model.pack (.zero (-s))).unpack = .zero (-s) := unpack_packedZero
    rw [UnpackedFloat.neg, hpack]
    exact congrArg some neg_zero.symm
  | infinity s =>
    have hpack : (Float.Model.pack (.infinity (-s))).unpack = .infinity (-s) :=
      unpack_packedInfinity (-s)
    rw [UnpackedFloat.neg, hpack]
    rfl
  | notANumber =>
    have hpack : (Float.Model.pack .notANumber).unpack = .notANumber := unpack_packedNaN
    rw [UnpackedFloat.neg, hpack]
    rfl
  | finite s m e hm =>
    have hform := form_of_unpack hx
    rw [UnpackedFloat.neg, unpack_pack_finite hform.1 hform.2]
    cases s with
    | positive => rfl
    | negative => exact congrArg some (neg_neg _).symm

end GeoDrafts.Decimal
