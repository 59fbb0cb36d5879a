/-!
Doubles as exact numbers. A finite double is a natural number times a power of two; rounding up,
cutting off the fraction and testing for a whole number are done on that form, in exact
arithmetic.
-/

namespace GeoDrafts.Decimal

/-- The size of a finite double, `significand * 2 ^ exponent`, without its sign. -/
structure Dyadic where
  significand : Nat
  exponent : Int
  /-- The next smaller double is half as far away as the next larger one. -/
  narrowBelow : Bool
  deriving DecidableEq, Repr

namespace Dyadic

/-- Reads the fields of a double's bit pattern. The patterns of infinities and NaN denote no
number, so callers ask first whether the double is finite. -/
def ofBits (bits : UInt64) : Dyadic :=
  let field := ((bits >>> 52) &&& 0x7FF).toNat
  let fraction := (bits &&& 0xFFFFFFFFFFFFF).toNat
  if field = 0 then ⟨fraction, -1074, false⟩
  else ⟨Nat.pow 2 52 + fraction, (field : Int) - 1075, fraction == 0 && field > 1⟩

def ofFloat (x : Float) : Dyadic := ofBits x.toBits

/-- The part of the exponent that multiplies. -/
def scaleUp (d : Dyadic) : Nat := Nat.pow 2 d.exponent.toNat

/-- The part of the exponent that divides. -/
def scaleDown (d : Dyadic) : Nat := Nat.pow 2 (-d.exponent).toNat

def floor (d : Dyadic) : Nat := d.significand * d.scaleUp / d.scaleDown

def ceil (d : Dyadic) : Nat := (d.significand * d.scaleUp + (d.scaleDown - 1)) / d.scaleDown

def isWhole (d : Dyadic) : Bool := d.significand * d.scaleUp % d.scaleDown == 0

end Dyadic

/-- The sign bit, which also tells the two zeros apart. -/
def signBit (x : Float) : Bool := x.toBits >>> 63 != 0

/-- The natural number that a double is, if it is one below `2 ^ 64`. -/
def naturalOfFloat? (x : Float) : Option Nat :=
  if x.isFinite && !(x < 0.0) then
    let d := Dyadic.ofFloat x
    if d.isWhole && d.floor < Nat.pow 2 64 then some d.floor else none
  else none

/-- The least whole number that is not below a double. Whole numbers stay as they are, the zeros
with their signs, and so do infinities and NaN. -/
def roundUp (x : Float) : Float :=
  let d := Dyadic.ofFloat x
  if !x.isFinite || d.isWhole then x
  else if x < 0.0 then -Float.ofNat d.floor
  else Float.ofNat d.ceil

/-- The nearest natural number below, kept within `0` and `2 ^ 64 - 1`; NaN gives `0`. -/
def saturated (x : Float) : Nat :=
  if x.isNaN || x < 0.0 then 0
  else if x.isFinite then min (Dyadic.ofFloat x).floor (Nat.pow 2 64 - 1)
  else Nat.pow 2 64 - 1

end GeoDrafts.Decimal
