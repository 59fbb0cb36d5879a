import GeoDrafts.Decimal.Dyadic

/-!
The fewest decimal digits that identify a double. The reals that round to a double form an
interval around it, with its ends included exactly when the significand is even. The search
tries ever finer decimal grids and stops at the first that has a point in the interval; of two
such points it takes the nearer, and the caller says which of two equally near ones.
-/

namespace GeoDrafts.Decimal

/-- The decimal number `digits * 10 ^ exponent`. -/
structure Scaled where
  digits : Nat
  exponent : Int
  deriving DecidableEq, Repr

inductive Tie where
  | toEven
  | up
  deriving DecidableEq, Repr

def roundQuotient (tie : Tie) (numerator denominator : Nat) : Nat :=
  let below := numerator / denominator
  match compare (2 * (numerator % denominator)) denominator with
  | .lt => below
  | .gt => below + 1
  | .eq =>
    match tie with
    | .up => below + 1
    | .toEven => if below % 2 = 0 then below else below + 1

namespace Dyadic

def isBelowPowerOfTen (d : Dyadic) (k : Int) : Bool :=
  d.significand * d.scaleUp * Nat.pow 10 (-k).toNat < d.scaleDown * Nat.pow 10 k.toNat

/-- The least `k` with the value below `10 ^ k`, for a value above zero. The binary logarithm
gives it up to two. -/
def decimalScale (d : Dyadic) : Int :=
  let guess := ((d.significand.log2 : Int) + d.exponent) * 30103 / 100000
  if d.isBelowPowerOfTen guess then guess
  else if d.isBelowPowerOfTen (guess + 1) then guess + 1
  else guess + 2

/-- The point of the grid `10 ^ g` that stands for the value, if one lies in the interval of the
reals that round to it. -/
def onGrid? (tie : Tie) (d : Dyadic) (g : Int) : Option Nat :=
  let one := d.scaleUp * Nat.pow 10 (-g).toNat
  let value := d.significand * one
  let step := d.scaleDown * Nat.pow 10 g.toNat
  let below := value / step
  let closed := d.significand % 2 == 0
  let roomBelow := if d.narrowBelow then one else 2 * one
  let lowFits := decide (4 * value < 4 * (below * step) + roomBelow) ||
    closed && 4 * value == 4 * (below * step) + roomBelow
  let highFits := decide (4 * ((below + 1) * step) < 4 * value + 2 * one) ||
    closed && 4 * ((below + 1) * step) == 4 * value + 2 * one
  match lowFits, highFits with
  | true, true => some (roundQuotient tie value step)
  | true, false => some below
  | false, true => some (below + 1)
  | false, false => none

/-- The value itself as a decimal number. -/
def exactly (d : Dyadic) : Scaled :=
  if 0 ≤ d.exponent then ⟨d.significand * d.scaleUp, 0⟩
  else ⟨d.significand * Nat.pow 5 (-d.exponent).toNat, d.exponent⟩

end Dyadic

/-- Moves factors of ten from the digits to the exponent, at most `fuel` of them. -/
def Scaled.stripZeros : Nat → Scaled → Scaled
  | 0, s => s
  | fuel + 1, s =>
    if s.digits ≠ 0 ∧ s.digits % 10 = 0 then stripZeros fuel ⟨s.digits / 10, s.exponent + 1⟩
    else s

/-- The fewest digits that read back to the value. Seventeen places always suffice; the exact
value stands in for a search without success. -/
def Dyadic.shortest (tie : Tie) (d : Dyadic) : Scaled :=
  let scale := d.decimalScale
  let found := (List.range 17).findSome? fun i =>
    let g := scale - (i + 1 : Nat)
    (d.onGrid? tie g).map fun digits => Scaled.mk digits g
  (found.getD d.exactly).stripZeros 20

end GeoDrafts.Decimal
