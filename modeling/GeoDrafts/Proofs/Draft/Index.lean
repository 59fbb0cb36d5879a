import GeoDrafts.Draft.Index
import Mathlib.Algebra.Group.Nat.Defs

/-!
Decimal identifiers. The decimal text of a number below `2 ^ 64` denotes that number, and no other
number has the same text; whatever denotes an index denotes one below `2 ^ 64`.
-/

namespace GeoDrafts

namespace Text

theorem trimBy_eq_self {p : Char → Bool} {cs : List Char} (h : ∀ c ∈ cs, p c = false) :
    trimBy p cs = cs := by
  have hd : ∀ l : List Char, (∀ c ∈ l, p c = false) → l.dropWhile p = l := by
    intro l hl
    cases l with
    | nil => rfl
    | cons c l => simp [hl c (by simp)]
  have hr : ∀ c ∈ cs.reverse, p c = false := fun c hc => h c (by simpa using hc)
  rw [trimBy, hd cs h, hd cs.reverse hr, List.reverse_reverse]

theorem isBlankChar_of_isDigit {c : Char} (h : c.isDigit = true) : isBlankChar c = false := by
  have hn : 48 ≤ c.toNat ∧ c.toNat ≤ 57 := by
    simpa [Char.isDigit, UInt32.le_iff_toNat_le] using h
  simp [isBlankChar]
  omega

end Text

namespace Decimal

theorem digitsValue_toDigits (n : Nat) : digitsValue (Nat.toDigits 10 n) = n :=
  Nat.ofDigitChars_ten_toDigits

theorem all_isDigit_toDigits (n : Nat) : ∀ c ∈ Nat.toDigits 10 n, c.isDigit = true :=
  fun _ hc => Nat.isDigit_of_mem_toDigits (by decide) (by decide) hc

theorem readNatural?_toDigits {n : Nat} (h : n < 2 ^ 64) :
    readNatural? (Nat.toDigits 10 n) = some n := by
  have hall := all_isDigit_toDigits n
  have hvalue := digitsValue_toDigits n
  cases hds : Nat.toDigits 10 n with
  | nil => exact absurd hds Nat.toDigits_ne_nil
  | cons c cs =>
    rw [hds] at hall hvalue
    have hplus : c ≠ '+' := by
      rintro rfl
      exact absurd (hall '+' (by simp)) (by decide)
    have hdigits : (c :: cs).all Char.isDigit = true := List.all_eq_true.mpr hall
    have hlt : digitsValue (c :: cs) < 2 ^ 64 := hvalue.symm ▸ h
    rw [readNatural?, if_pos ⟨List.cons_ne_nil c cs, hdigits, hlt⟩, hvalue]
    exact fun rest heq => hplus (List.cons.inj heq).1

theorem readNatural?_lt {cs : List Char} {n : Nat} (h : readNatural? cs = some n) :
    n < 2 ^ 64 := by
  obtain ⟨⟨_, _, hlt⟩, hn⟩ := Option.ite_none_right_eq_some.mp h
  rwa [← Option.some.inj hn]

theorem naturalOfFloat?_lt {x : Float} {n : Nat} (h : naturalOfFloat? x = some n) :
    n < 2 ^ 64 := by
  simp only [naturalOfFloat?] at h
  split at h
  · split at h
    · rename_i hd
      simp only [Option.some.injEq] at h
      simp only [Bool.and_eq_true, decide_eq_true_eq] at hd
      rw [← h]
      exact hd.2
    · cases h
  · cases h

end Decimal

theorem toString_nat_inj {m n : Nat} : toString m = toString n ↔ m = n := by
  constructor
  · intro h
    have hd : Nat.toDigits 10 m = Nat.toDigits 10 n := by
      simpa only [Nat.toString_eq_repr, Nat.toList_repr] using congrArg String.toList h
    rw [← Decimal.digitsValue_toDigits m, hd, Decimal.digitsValue_toDigits]
  · rintro rfl
    rfl

/-- The decimal text of a number is read as that number. -/
theorem indexOfText?_toString {n : Nat} (h : n < 2 ^ 64) : indexOfText? (toString n) = some n := by
  have ht : Text.trimChars (toString n).toList = Nat.toDigits 10 n := by
    rw [Nat.toString_eq_repr, Nat.toList_repr]
    exact Text.trimBy_eq_self fun c hc =>
      Text.isBlankChar_of_isDigit (Decimal.all_isDigit_toDigits n c hc)
  simp only [indexOfText?, ht, Decimal.readNatural?_toDigits h]

/-- The texts of indices denote these indices. -/
theorem filterMap_indexOfText?_toString {indices : List Nat} (hlt : ∀ i ∈ indices, i < 2 ^ 64) :
    (indices.map toString).filterMap indexOfText? = indices := by
  induction indices with
  | nil => rfl
  | cons i indices ih =>
    obtain ⟨hi, hrest⟩ := List.forall_mem_cons.mp hlt
    rw [List.map_cons, List.filterMap_cons, indexOfText?_toString hi, ih hrest]

theorem indexOfText?_lt {s : String} {n : Nat} (h : indexOfText? s = some n) : n < 2 ^ 64 := by
  simp only [indexOfText?] at h
  split at h
  · rename_i m hm
    cases h
    exact Decimal.readNatural?_lt hm
  · obtain ⟨x, _, hx⟩ := Option.bind_eq_some_iff.mp h
    exact Decimal.naturalOfFloat?_lt hx

theorem RawId.index?_lt {id : RawId} {n : Nat} (h : id.index? = some n) : n < 2 ^ 64 := by
  cases id with
  | number x => exact Decimal.naturalOfFloat?_lt h
  | text s => exact indexOfText?_lt h

end GeoDrafts
