import GeoDrafts.Draft.Index
import GeoDrafts.Json.Literal
import GeoDrafts.Proofs.Decimal.Natural

/-!
The numbers that literals denote. A literal has an exact value; the number that is made of it is
that value if the digits are few and rounding changes nothing.
-/

namespace GeoDrafts.Json

open Decimal
open Float.Model
open Float.Model.UnpackedFloat hiding unpack pack

namespace Literal

def digits (l : Literal) : ℕ := digitsValue (l.whole ++ l.fraction)

def power (l : Literal) : ℤ := l.writtenExponent - l.fraction.length

def size (l : Literal) : ℚ := l.digits * 10 ^ l.power

def value (l : Literal) : ℚ := if l.negative then -l.size else l.size

/-- The digits are those of a double of 64 bits, and at most 22 of them stand behind the point. -/
structure IsShort (l : Literal) : Prop where
  isDouble : IsDouble l.digits
  lt : l.digits < 2 ^ 64
  decimals : l.digits = 0 ∨ -22 ≤ l.power

theorem size_nonneg (l : Literal) : 0 ≤ l.size := by
  unfold size
  positivity

end Literal

/-! ## The sign -/

def readUnsigned? (negative : Bool) (cs : List Char) : Option (Literal × List Char) := do
  let (whole, cs) := spanDigits cs
  if whole = [] ∨ (whole.head? = some '0' ∧ whole.length ≠ 1) then none
  else
    let (fraction, cs) ← readFraction? cs
    let (exponent, cs) ← readExponentPart? cs
    some (⟨negative, whole, fraction, exponent⟩, cs)

theorem readLiteral?_minus (cs : List Char) :
    readLiteral? ('-' :: cs) = readUnsigned? true cs := rfl

theorem readLiteral?_of_ne {c : Char} (hc : c ≠ '-') (cs : List Char) :
    readLiteral? (c :: cs) = readUnsigned? false (c :: cs) := by
  have hsign : ∀ rest, c :: cs ≠ '-' :: rest := fun rest heq => hc (List.cons.inj heq).1
  simp only [readLiteral?, readUnsigned?]

/-! ## The significand -/

def appendDigits (n : ℕ) (cs : List Char) : ℕ := cs.foldl (fun n c => 10 * n + digitValue c) n

theorem Literal.digits_eq (l : Literal) :
    l.digits = appendDigits (appendDigits 0 l.whole) l.fraction := List.foldl_append

theorem le_appendDigits (n : ℕ) (cs : List Char) : n ≤ appendDigits n cs := by
  induction cs generalizing n with
  | nil => exact le_rfl
  | cons c cs ih => exact le_trans (by omega) (ih (10 * n + digitValue c))

/-- All digits are taken if the number that they form fits. -/
theorem takeDigits_eq {n : ℕ} {cs : List Char} (h : appendDigits n cs ≤ maxSignificand) :
    takeDigits n cs = (appendDigits n cs, []) := by
  induction cs generalizing n with
  | nil => rfl
  | cons c cs ih =>
    have hfits := le_trans (le_appendDigits (10 * n + digitValue c) cs) h
    rw [takeDigits, if_pos hfits]
    exact ih h

theorem Literal.significand_eq {l : Literal} (h : l.digits < 2 ^ 64) :
    l.significand = (l.digits, -(l.fraction.length : ℤ)) := by
  have hmax : maxSignificand = 2 ^ 64 - 1 := rfl
  rw [digits_eq] at h ⊢
  have hwhole := le_appendDigits (appendDigits 0 l.whole) l.fraction
  rw [Literal.significand, takeDigits_eq (n := 0) (by omega)]
  dsimp only
  rw [takeDigits_eq (by omega)]
  simp

/-! ## Powers of ten -/

theorem isDouble_power {k : ℕ} (hk : k ≤ 22) : IsDouble ((10 : ℚ) ^ k) := by
  refine ⟨5 ^ k, k, ?_, by omega, by omega, ?_⟩
  · calc 5 ^ k ≤ 5 ^ 22 := Nat.pow_le_pow_right (by decide) hk
      _ < 2 ^ 53 := by decide
  · rw [abs_of_pos (by positivity), zpow_natCast, Nat.cast_pow, ← mul_pow]
    norm_num

theorem holds_exactPower {k : ℕ} (hk : k ≤ 22) :
    Holds (10 ^ k) (Float.ofScientific 1 false k).toModel.unpack := by
  have hvalue : (10 : ℚ) ^ k = (1 : ℕ) * 10 ^ (if false then -(k : ℤ) else k) := by simp
  have hdouble := isDouble_power hk
  rw [hvalue] at hdouble ⊢
  exact holds_ofScientific 1 false k hdouble

/-! ## Scaling -/

section
variable {x y : Float}

theorem holds_zero_iff {f : UnpackedFloat} : Holds 0 f ↔ ∃ s, f = .zero s := by
  constructor
  · intro h
    rcases h.cases with ⟨s, rfl, -⟩ | ⟨m, e, hm, -, -, -, hzero⟩
    · exact ⟨s, rfl⟩
    · have hpos : (0 : ℚ) < m * 2 ^ e := by positivity
      exact absurd hzero hpos.ne
  · rintro ⟨s, rfl⟩
    rfl

theorem not_isFinite_pack_notANumber : (Float.Model.pack .notANumber).isFinite ≠ true := by decide

/-- Zero times a double is zero, unless it is no number. -/
theorem holds_zero_mul (hx : Holds 0 x.toModel.unpack) (h : (x * y).isFinite = true) :
    Holds 0 (x * y).toModel.unpack := by
  obtain ⟨s, hs⟩ := holds_zero_iff.mp hx
  change (Float.Model.pack (UnpackedFloat.mul .binary64 x.toModel.unpack y.toModel.unpack)).isFinite
    = true at h
  refine Holds.unpack_pack (f := UnpackedFloat.mul .binary64 x.toModel.unpack y.toModel.unpack) ?_
  rw [hs] at h ⊢
  cases hy : y.toModel.unpack with
  | zero s' => exact rfl
  | finite s' m e hm => exact rfl
  | _ =>
    rw [hy] at h
    exact absurd h not_isFinite_pack_notANumber

theorem holds_zero_div (hx : Holds 0 x.toModel.unpack) (h : (x / y).isFinite = true) :
    Holds 0 (x / y).toModel.unpack := by
  obtain ⟨s, hs⟩ := holds_zero_iff.mp hx
  change (Float.Model.pack (UnpackedFloat.div .binary64 x.toModel.unpack y.toModel.unpack)).isFinite
    = true at h
  refine Holds.unpack_pack (f := UnpackedFloat.div .binary64 x.toModel.unpack y.toModel.unpack) ?_
  rw [hs] at h ⊢
  cases hy : y.toModel.unpack with
  | infinity s' => exact rfl
  | finite s' m e hm => exact rfl
  | _ =>
    rw [hy] at h
    exact absurd h not_isFinite_pack_notANumber

/-- A positive number is not read as zero. -/
theorem beq_zero_of_pos {q : ℚ} (hx : Holds q x.toModel.unpack) (hq : 0 < q) :
    (x == 0.0) = false := by
  have hzero : (0.0 : Float).toModel.unpack = .zero .positive := by rfl
  change x.toModel.unpack.beq (0.0 : Float).toModel.unpack = false
  rw [hzero]
  cases hunpack : x.toModel.unpack with
  | zero s =>
    rw [hunpack] at hx
    exact absurd hx hq.ne'
  | finite s m e hm => cases s <;> rfl
  | _ =>
    rw [hunpack] at hx
    cases hx

end

/-- How a scaled double comes about. -/
theorem scaled?_cases {s : ℕ} {e : ℤ} {y : Float} (h : scaled? s e = some y) :
    y.isFinite = true ∧
      (e < 0 ∧ y = divideByPower (Float.ofNat s) e.natAbs ∨
        0 ≤ e ∧ e ≤ 308 ∧ y = Float.ofNat s * Float.ofScientific 1 false e.natAbs ∨
        308 < e ∧ y = if Float.ofNat s == 0.0 then Float.ofNat s else 1.0 / 0.0) := by
  unfold scaled? at h
  dsimp only at h
  rw [Option.ite_none_right_eq_some, Option.some.injEq] at h
  obtain ⟨hfinite, rfl⟩ := h
  refine ⟨hfinite, ?_⟩
  by_cases hneg : e < 0
  · exact .inl ⟨hneg, if_pos hneg⟩
  · rw [if_neg hneg]
    by_cases hlarge : e ≤ 308
    · exact .inr (.inl ⟨not_lt.mp hneg, hlarge, if_pos hlarge⟩)
    · exact .inr (.inr ⟨not_le.mp hlarge, if_neg hlarge⟩)

/-- Zero is scaled to zero. -/
theorem holds_scaled?_zero {e : ℤ} {y : Float} (h : scaled? 0 e = some y) :
    Holds 0 y.toModel.unpack := by
  have hx : Holds 0 (Float.ofNat 0).toModel.unpack := by
    have := holds_float_ofNat (n := 0) isDouble_zero
    rwa [Nat.cast_zero] at this
  have hzero : (Float.ofNat 0 == 0.0) = true := by rfl
  obtain ⟨hfinite, ⟨-, rfl⟩ | ⟨-, -, rfl⟩ | ⟨-, rfl⟩⟩ := scaled?_cases h
  · rw [divideByPower] at hfinite ⊢
    by_cases hk : e.natAbs ≤ 308
    · rw [if_pos hk] at hfinite ⊢
      exact holds_zero_div hx hfinite
    · rwa [if_neg hk, if_pos hzero]
  · exact holds_zero_mul hx hfinite
  · rwa [if_pos hzero]

/-- **Scaling** digits that are a double: the result is rounded once, or it is too large. -/
theorem reads_scaled? {s : ℕ} {e : ℤ} {y : Float} (hs : IsDouble s) (he : s = 0 ∨ -22 ≤ e)
    (h : scaled? s e = some y) : Reads ((s : ℚ) * 10 ^ e) y := by
  rcases Nat.eq_zero_or_pos s with rfl | hpos
  · rw [Nat.cast_zero, zero_mul]
    exact reads_zero (holds_scaled?_zero h)
  have hlow : -22 ≤ e := he.resolve_left hpos.ne'
  have hx := holds_float_ofNat hs
  have hone : (1 : ℚ) ≤ s := by exact_mod_cast hpos
  obtain ⟨hfinite, ⟨hneg, rfl⟩ | ⟨hnonneg, hlarge, rfl⟩ | ⟨hlarge, rfl⟩⟩ := scaled?_cases h
  · have hk : e.natAbs ≤ 22 := by omega
    have hpower := holds_exactPower hk
    have hne : (10 : ℚ) ^ e.natAbs ≠ 0 := by positivity
    have hvalue : (s : ℚ) * 10 ^ e = s / 10 ^ e.natAbs := by
      rw [← zpow_natCast, Int.natCast_natAbs, abs_of_neg hneg, zpow_neg, div_inv_eq_mul]
    rw [divideByPower, if_pos (by omega), hvalue]
    exact .near (nears_div hx hpower hne).unpack_pack fun hq =>
      (holds_div hx hpower hne hq).unpack_pack
  · obtain ⟨k, rfl⟩ := Int.eq_ofNat_of_zero_le hnonneg
    rw [zpow_natCast, Int.natAbs_natCast]
    rcases Nat.lt_or_ge k 23 with hk | hk
    · have hpower := holds_exactPower (Nat.le_of_lt_succ hk)
      exact .near (nears_mul hx hpower).unpack_pack fun hq => (holds_mul hx hpower hq).unpack_pack
    · refine .large ?_ ?_
      · have hproduct := (hx.atLeast ((zpow_zero 2).trans_le hone)).mul (atLeast_power hk) (by decide)
        rw [zero_add] at hproduct
        exact hproduct.unpack_pack
      · calc (2 : ℚ) ^ 64 ≤ 1 * 10 ^ 23 := by norm_num
          _ ≤ (s : ℚ) * 10 ^ k := by gcongr; norm_num
  · rw [beq_zero_of_pos hx (Nat.cast_pos.mpr hpos), if_neg Bool.false_ne_true] at hfinite
    exact absurd hfinite (by decide +kernel)

/-! ## Literals as numbers -/

theorem nears_ofNat (n : ℕ) : Nears n (Float.ofNat n).toModel.unpack := by
  have hnears := nears_ofScientific n false 0
  have hvalue : (n : ℚ) * 10 ^ (if false then -((0 : ℕ) : ℤ) else (0 : ℕ)) = n := by simp
  rwa [hvalue] at hnears

namespace Literal

variable {l : Literal}

/-- The double of a short literal. -/
theorem reads_size? (hl : l.IsShort) {y : Float} (h : l.size? = some y) : Reads l.size y := by
  have hzero : Holds 0 (0.0 : Float).toModel.unpack := rfl
  have hof : l.digits = 0 → Reads l.size 0.0 := by
    intro hdigits
    rw [size, hdigits, Nat.cast_zero, zero_mul]
    exact reads_zero hzero
  have hpower : -(l.fraction.length : ℤ) + l.writtenExponent = l.power := by
    rw [power]
    ring
  have hlimit : Nat.pow 2 31 = 2147483648 := rfl
  rw [size?, significand_eq hl.lt] at h
  dsimp only at h
  split at h
  · split at h
    · rename_i hdigits
      cases h
      exact hof hdigits
    · cases h
  split at h
  · rename_i hsmall
    cases h
    refine hof (hl.decimals.resolve_right fun hpower => ?_)
    rw [power] at hpower
    rw [hlimit] at hsmall
    omega
  · rw [hpower] at h
    exact reads_scaled? hl.isDouble hl.decimals h

theorem index?_number (x : Number) : (Json.number x).index? = naturalOfFloat? x.toFloat := rfl

/-- A literal of whole digits is the double nearest to them, with its sign. -/
theorem ofInt_of_whole? {k : ℤ} (h : l.whole? = some k) : ∃ m : ℕ, l.size = m ∧
    Float.ofInt k = if l.negative then -Float.ofNat m else Float.ofNat m := by
  unfold whole? at h
  dsimp only at h
  rw [Option.ite_none_right_eq_some] at h
  obtain ⟨⟨hfraction, hexponent⟩, h⟩ := h
  refine ⟨digitsValue l.whole, ?_, ?_⟩
  · rw [Option.isNone_iff_eq_none] at hexponent
    rw [size, digits, power, writtenExponent, hexponent, hfraction]
    simp
  cases hnegative : l.negative with
  | false =>
    rw [hnegative, if_neg Bool.false_ne_true, Option.ite_none_right_eq_some] at h
    obtain ⟨-, hk⟩ := h
    cases hk
    rfl
  | true =>
    rw [hnegative, if_pos rfl, Option.ite_none_right_eq_some] at h
    obtain ⟨⟨hpos, -⟩, hk⟩ := h
    cases hk
    obtain ⟨m, hm⟩ := Nat.exists_eq_succ_of_ne_zero hpos.ne'
    rw [hm]
    rfl

/-- The number of a literal is a double with the sign of the literal. -/
theorem toFloat_of_number? {x : Number} (h : l.number? = some x) :
    ∃ y, x.toFloat = (if l.negative then -y else y) ∧
      ((∃ m : ℕ, l.size = m ∧ y = Float.ofNat m) ∨ l.size? = some y) := by
  unfold number? at h
  split at h
  · rename_i k hk
    cases h
    obtain ⟨m, hsize, hm⟩ := ofInt_of_whole? hk
    exact ⟨Float.ofNat m, hm, .inl ⟨m, hsize, rfl⟩⟩
  · obtain ⟨y, hy, rfl⟩ := Option.map_eq_some_iff.mp h
    exact ⟨y, rfl, .inr hy⟩

/-- **The index of a short literal.** Where rounding changes nothing, it is the exact value. -/
theorem index?_of_number? (hl : l.IsShort) (hs : Survives l.size) {x : Number}
    (h : l.number? = some x) {n : ℕ} :
    (Json.number x).index? = some n ↔ l.value = n ∧ n < 2 ^ 64 := by
  obtain ⟨y, hx, hy⟩ := toFloat_of_number? h
  have hreads : Reads l.size y := by
    rcases hy with ⟨m, hsize, rfl⟩ | hy
    · exact hsize ▸ .near (nears_ofNat m) holds_float_ofNat
    · exact reads_size? hl hy
  rw [index?_number, hx]
  exact naturalOfFloat?_signed_iff l.negative l.size_nonneg hreads hs

end Literal

end GeoDrafts.Json
