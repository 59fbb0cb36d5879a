import GeoDrafts.Decimal.Shortest

/-!
How a selected decimal is laid out as text. The decisions of a number format form one record;
the two formats of this library are a number in a JSON document and a number in a message.
Also the text with a fixed number of places, which rounds the exact value.
-/

namespace GeoDrafts.Decimal

/-- The decisions of a number format. -/
structure Layout where
  /-- The choice between two equally near shortest candidates. -/
  tie : Tie
  /-- Whether a number whose first digit counts `10 ^ e` is written without an exponent. -/
  positional : Int → Bool
  /-- Whether a whole number keeps one zero after the point. -/
  wholePoint : Bool

/-- Numbers in JSON documents: positional from `1e-5` up to `1e16`, always with a fraction, else
with a signed exponent without padding. -/
def Layout.document : Layout where
  tie := .toEven
  positional e := -5 ≤ e && e < 16
  wholePoint := true

/-- Numbers in messages: never an exponent, and no point in a whole number. -/
def Layout.message : Layout where
  tie := .up
  positional _ := true
  wholePoint := false

def zeros (n : Nat) : String := String.ofList (List.replicate n '0')

/-- A decimal number written without an exponent. -/
def Scaled.positionalText (wholePoint : Bool) (s : Scaled) : String :=
  let digits := toString s.digits
  if 0 ≤ s.exponent then
    digits ++ zeros s.exponent.toNat ++ (if wholePoint then ".0" else "")
  else
    let places := (-s.exponent).toNat
    if places < digits.length then
      (digits.take (digits.length - places)).toString ++ "." ++
        (digits.drop (digits.length - places)).toString
    else "0." ++ zeros (places - digits.length) ++ digits

/-- A decimal number written as one digit, a fraction if there are more digits, and a signed
exponent. -/
def Scaled.exponentText (s : Scaled) : String :=
  let digits := toString s.digits
  let e := s.exponent + (digits.length - 1 : Nat)
  let fraction := (digits.drop 1).toString
  (digits.take 1).toString ++ (if fraction.isEmpty then "" else "." ++ fraction) ++ "e" ++
    (if e < 0 then "-" else "+") ++ toString e.natAbs

def Layout.size (l : Layout) (d : Dyadic) : String :=
  if d.significand = 0 then (if l.wholePoint then "0.0" else "0")
  else
    let s := d.shortest l.tie
    if l.positional (s.exponent + ((toString s.digits).length - 1 : Nat)) then
      s.positionalText l.wholePoint
    else s.exponentText

/-- Writes a value's sign in front of the text of its size. NaN has no sign. -/
def withSign (x : Float) (size : Dyadic → String) : String :=
  if x.isNaN then "NaN"
  else
    let text := if x.isFinite then size (Dyadic.ofFloat x) else "inf"
    if signBit x then "-" ++ text else text

def Layout.write (l : Layout) (x : Float) : String := withSign x l.size

/-- A natural number of units of `10 ^ -places` as text. -/
def placesText (places units : Nat) : String :=
  let digits := toString units
  let padded := zeros (places + 1 - digits.length) ++ digits
  if places = 0 then padded
  else
    (padded.take (padded.length - places)).toString ++ "." ++
      (padded.drop (padded.length - places)).toString

/-- The text with a fixed number of places: the exact value rounded, a half to the even
neighbour. The sign of a value that rounds to zero stays. -/
def fixed (places : Nat) (x : Float) : String :=
  withSign x fun d =>
    placesText places
      (roundQuotient .toEven (d.significand * d.scaleUp * Nat.pow 10 places) d.scaleDown)

end GeoDrafts.Decimal
