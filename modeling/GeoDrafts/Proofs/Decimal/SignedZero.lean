import Mathlib

/-!
The two zeros. Comparisons, sums, differences and products of doubles do not tell them apart,
except by the sign of a result that is zero itself. A quotient does, if its divisor is zero.
-/

namespace GeoDrafts.Decimal

open Float.Model
open Float.Model.UnpackedFloat hiding unpack pack

/-- The same number, or zeros of any signs. -/
inductive Alike : UnpackedFloat → UnpackedFloat → Prop
  | same (f : UnpackedFloat) : Alike f f
  | zeros (s t : Sign) : Alike (.zero s) (.zero t)

section
variable {f f' g g' : UnpackedFloat}

theorem Alike.trans {h : UnpackedFloat} (hfg : Alike f g) (hgh : Alike g h) : Alike f h := by
  cases hfg with
  | same => exact hgh
  | zeros s t =>
    cases hgh with
    | same => exact .zeros s t
    | zeros _ u => exact .zeros s u

/-- An operation does not see the sign of zeros if it does not see it on either side. -/
theorem Alike.lift {β : Type*} {R : β → β → Prop} (refl : ∀ b, R b b)
    (trans : ∀ {a b c : β}, R a b → R b c → R a c) {op : UnpackedFloat → UnpackedFloat → β}
    (hleft : ∀ g s t, R (op (.zero s) g) (op (.zero t) g))
    (hright : ∀ f s t, R (op f (.zero s)) (op f (.zero t)))
    (hf : Alike f f') (hg : Alike g g') : R (op f g) (op f' g') := by
  refine trans (b := op f' g) ?_ ?_
  · cases hf with
    | same => exact refl _
    | zeros s t => exact hleft g s t
  · cases hg with
    | same => exact refl _
    | zeros s t => exact hright f' s t

theorem Alike.add (hf : Alike f f') (hg : Alike g g') :
    Alike (UnpackedFloat.add .binary64 f g) (UnpackedFloat.add .binary64 f' g') := by
  refine Alike.lift .same .trans (fun g s t => ?_) (fun f s t => ?_) hf hg
  · cases g with
    | zero u => cases s <;> cases t <;> cases u <;> constructor
    | _ => exact .same _
  · cases f with
    | zero u => cases s <;> cases t <;> cases u <;> constructor
    | _ => exact .same _

theorem Alike.sub (hf : Alike f f') (hg : Alike g g') :
    Alike (UnpackedFloat.sub .binary64 f g) (UnpackedFloat.sub .binary64 f' g') := by
  refine Alike.lift .same .trans (fun g s t => ?_) (fun f s t => ?_) hf hg
  · cases g with
    | zero u => cases s <;> cases t <;> cases u <;> constructor
    | _ => exact .same _
  · cases f with
    | zero u => cases s <;> cases t <;> cases u <;> constructor
    | _ => exact .same _

theorem Alike.mul (hf : Alike f f') (hg : Alike g g') :
    Alike (UnpackedFloat.mul .binary64 f g) (UnpackedFloat.mul .binary64 f' g') := by
  refine Alike.lift .same .trans (fun g s t => ?_) (fun f s t => ?_) hf hg
  · cases g with
    | notANumber | infinity _ => exact .same _
    | _ => exact .zeros _ _
  · cases f with
    | notANumber | infinity _ => exact .same _
    | _ => exact .zeros _ _

/-- A dividend that is zero has any sign; the divisor is left as it is. -/
theorem Alike.div (hf : Alike f f') (g : UnpackedFloat) :
    Alike (UnpackedFloat.div .binary64 f g) (UnpackedFloat.div .binary64 f' g) := by
  cases hf with
  | same => exact .same _
  | zeros s t =>
    cases g with
    | notANumber | zero _ => exact .same _
    | _ => exact .zeros _ _

/-- A difference is the same up to the last bit unless both sides are zero. -/
theorem Alike.sub_eq (hf : Alike f f') (hg : Alike g g') :
    UnpackedFloat.sub .binary64 f g = UnpackedFloat.sub .binary64 f' g' ∨
      ∃ s t, f = .zero s ∧ g = .zero t := by
  cases hf with
  | same =>
    cases hg with
    | same => exact .inl rfl
    | zeros s t =>
      cases f with
      | zero u => exact .inr ⟨u, s, rfl, rfl⟩
      | _ => exact .inl rfl
  | zeros s t =>
    cases hg with
    | same =>
      cases g with
      | zero u => exact .inr ⟨s, u, rfl, rfl⟩
      | _ => exact .inl rfl
    | zeros u v => exact .inr ⟨s, u, rfl, rfl⟩

theorem Alike.lt (hf : Alike f f') (hg : Alike g g') : f.lt g = f'.lt g' := by
  refine Alike.lift Eq.refl Eq.trans (fun g s t => ?_) (fun f s t => ?_) hf hg
  · cases g with
    | infinity u | finite u => cases u <;> rfl
    | _ => rfl
  · cases f with
    | infinity u | finite u => cases u <;> rfl
    | _ => rfl

/-- What compares as equal is the same number. -/
theorem alike_of_beq (h : f.beq g = true) : Alike f g := by
  have hsign : ∀ {s t : Sign}, compare s t = .eq → s = t := by
    intro s t hst
    cases s <;> cases t <;> first | rfl | cases hst
  have hfinite : ∀ {m n : Nat} {e k : Int},
      (compare e k).then (compare m n) = .eq → e = k ∧ m = n := by
    intro m n e k hboth
    obtain ⟨he, hm⟩ := Ordering.then_eq_eq.mp hboth
    exact ⟨compare_eq_iff_eq.mp he, compare_eq_iff_eq.mp hm⟩
  have hcompare : f.compare g = some .eq := beq_iff_eq.mp h
  cases f with
  | notANumber => cases hcompare
  | infinity s =>
    cases g with
    | infinity t =>
      obtain rfl := hsign (Option.some.inj hcompare)
      exact .same _
    | _ => cases s <;> cases hcompare
  | zero s =>
    cases g with
    | zero t => exact .zeros s t
    | notANumber => cases hcompare
    | infinity t => cases t <;> cases hcompare
    | finite t => cases t <;> cases hcompare
  | finite s m e hm =>
    cases g with
    | finite t n k hn =>
      cases s <;> cases t
      · obtain ⟨rfl, rfl⟩ := hfinite (Ordering.swap_eq_eq.mp (Option.some.inj hcompare))
        exact .same _
      · cases hcompare
      · cases hcompare
      · obtain ⟨rfl, rfl⟩ := hfinite (Option.some.inj hcompare)
        exact .same _
    | infinity t => cases s <;> cases t <;> cases hcompare
    | zero t => cases s <;> cases hcompare
    | notANumber => cases s <;> cases hcompare

theorem Alike.unpack_pack (h : Alike f g) :
    Alike (Float.Model.pack f).unpack (Float.Model.pack g).unpack := by
  have hzero : ∀ s : Sign, (Float.Model.pack (.zero s)).unpack = .zero s := by
    intro s
    cases s <;> rfl
  cases h with
  | same => exact .same _
  | zeros s t =>
    rw [hzero, hzero]
    exact .zeros s t

end

/-! ## Doubles -/

def SameNumber (x y : Float) : Prop := Alike x.toModel.unpack y.toModel.unpack

section
variable {x x' y y' : Float}

theorem SameNumber.refl (x : Float) : SameNumber x x := .same _

theorem sameNumber_of_beq (h : (x == y) = true) : SameNumber x y := alike_of_beq h

theorem SameNumber.add (hx : SameNumber x x') (hy : SameNumber y y') :
    SameNumber (x + y) (x' + y') :=
  (Alike.add hx hy).unpack_pack

theorem SameNumber.sub (hx : SameNumber x x') (hy : SameNumber y y') :
    SameNumber (x - y) (x' - y') :=
  (Alike.sub hx hy).unpack_pack

theorem SameNumber.mul (hx : SameNumber x x') (hy : SameNumber y y') :
    SameNumber (x * y) (x' * y') :=
  (Alike.mul hx hy).unpack_pack

theorem SameNumber.div (hx : SameNumber x x') (y : Float) : SameNumber (x / y) (x' / y) :=
  (Alike.div hx y.toModel.unpack).unpack_pack

theorem SameNumber.lt_iff (hx : SameNumber x x') (hy : SameNumber y y') : x < y ↔ x' < y' := by
  have hlt : x.toModel.lt y.toModel = x'.toModel.lt y'.toModel := Alike.lt hx hy
  change decide (x.toModel.lt y.toModel = true) = true ↔
    decide (x'.toModel.lt y'.toModel = true) = true
  rw [hlt]

/-- Numbers that another one tells apart have one difference, whatever the signs of zeros. -/
theorem SameNumber.sub_eq (hx : SameNumber x x') (hy : SameNumber y y') {p : Float}
    (hp : ¬ (p < x ↔ p < y)) : x - y = x' - y' := by
  rcases Alike.sub_eq hx hy with heq | ⟨s, t, hs, ht⟩
  · exact congrArg (fun f => Float.ofModel (Float.Model.pack f)) heq
  · have hsame : SameNumber x y := by
      rw [SameNumber, hs, ht]
      exact .zeros s t
    exact absurd ((SameNumber.refl p).lt_iff hsame) hp

end

end GeoDrafts.Decimal
