/-!
Decimal text as a number. A double is written with an optional sign, digits with an optional
point and an optional exponent, or one of the words for infinity and NaN; it is rounded
correctly, and too large a number becomes infinite. A natural number is digits with an optional
plus sign.
-/

namespace GeoDrafts.Decimal

def digitValue (c : Char) : Nat := c.toNat - 48

def digitsValue (digits : List Char) : Nat :=
  digits.foldl (fun n c => 10 * n + digitValue c) 0

def spanDigits (cs : List Char) : List Char × List Char := cs.span Char.isDigit

/-- Splits one leading sign off; `true` is a minus sign. -/
def splitSign : List Char → Bool × List Char
  | '-' :: rest => (true, rest)
  | '+' :: rest => (false, rest)
  | cs => (false, cs)

/-- The double nearest to `digits * 10 ^ exponent`. Far above the range it is infinite and far
below it is zero, which is decided without computing the power. -/
def nearest (digits : Nat) (exponent : Int) : Float :=
  if digits = 0 then 0.0
  else
    let magnitude := ((toString digits).length : Int) + exponent
    if magnitude > 310 then 1.0 / 0.0
    else if magnitude < -330 then 0.0
    else Float.ofScientific digits (exponent < 0) exponent.natAbs

/-- The exponent part of a number: nothing, or a mark, an optional sign and digits to the end. -/
def readExponent? : List Char → Option Int
  | [] => some 0
  | mark :: rest =>
    if mark = 'e' ∨ mark = 'E' then
      let (negative, digits) := splitSign rest
      if digits ≠ [] ∧ digits.all Char.isDigit then
        let e : Int := digitsValue digits
        some (if negative then -e else e)
      else none
    else none

/-- A number without its sign. -/
def readSize? (cs : List Char) : Option Float :=
  let word := cs.map Char.toLower
  if word = "inf".toList ∨ word = "infinity".toList then some (1.0 / 0.0)
  else if word = "nan".toList then some (0.0 / 0.0)
  else
    let (whole, rest) := spanDigits cs
    let (fraction, rest) :=
      match rest with
      | '.' :: rest => spanDigits rest
      | rest => ([], rest)
    if whole = [] ∧ fraction = [] then none
    else (readExponent? rest).map fun e =>
      nearest (digitsValue (whole ++ fraction)) (e - fraction.length)

/-- Reads a double from the whole text. -/
def readFloat? (cs : List Char) : Option Float :=
  let (negative, size) := splitSign cs
  (readSize? size).map fun x => if negative then -x else x

/-- Reads a natural number below `2 ^ 64` from the whole text. -/
def readNatural? (cs : List Char) : Option Nat :=
  let digits :=
    match cs with
    | '+' :: rest => rest
    | cs => cs
  if digits ≠ [] ∧ digits.all Char.isDigit ∧ digitsValue digits < Nat.pow 2 64 then
    some (digitsValue digits)
  else none

end GeoDrafts.Decimal
