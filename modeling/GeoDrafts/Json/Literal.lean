import GeoDrafts.Decimal.Reading
import GeoDrafts.Json.Value

/-!
Number literals of JSON text. A literal without fraction and exponent whose value fits 64 bits
is a whole number. Any other is a double: as many leading digits as fit an unsigned 64-bit
number form the significand, which is multiplied or divided once by a power of ten. For long
literals this can differ from the nearest double by one bit.
-/

namespace GeoDrafts.Json

open Decimal

/-- The parts of a number literal; a literal without an exponent part has none. -/
structure Literal where
  negative : Bool
  whole : List Char
  fraction : List Char
  exponent : Option (Bool × List Char)
  deriving Repr

def maxSignificand : Nat := Nat.pow 2 64 - 1

/-- Appends digits to a significand while it fits; returns it with the digits left over. -/
def takeDigits (significand : Nat) : List Char → Nat × List Char
  | [] => (significand, [])
  | c :: cs =>
    if 10 * significand + digitValue c ≤ maxSignificand then
      takeDigits (10 * significand + digitValue c) cs
    else (significand, c :: cs)

/-- Takes powers of `1e308` off a double for an exponent below the table of powers, then the
rest of the exponent. Zero stays zero whatever the exponent. -/
def divideByPower (x : Float) (exponent : Nat) : Float :=
  if exponent ≤ 308 then x / Float.ofScientific 1 false exponent
  else if x == 0.0 then x
  else divideByPower (x / Float.ofScientific 1 false 308) (exponent - 308)
termination_by exponent
decreasing_by omega

/-- The double `significand * 10 ^ exponent`, if it is finite. -/
def scaled? (significand : Nat) (exponent : Int) : Option Float :=
  let x := Float.ofNat significand
  let y :=
    if exponent < 0 then divideByPower x exponent.natAbs
    else if exponent ≤ 308 then x * Float.ofScientific 1 false exponent.natAbs
    else if x == 0.0 then x
    else 1.0 / 0.0
  if y.isFinite then some y else none

/-- The significand of a literal and the power of ten that its digits still lack. -/
def Literal.significand (l : Literal) : Nat × Int :=
  let (s, unread) := takeDigits 0 l.whole
  let (s, dropped) := takeDigits s l.fraction
  (s, (unread.length : Int) - (l.fraction.length - dropped.length : Nat))

/-- The exponent that a literal writes, kept within 32 bits. -/
def Literal.writtenExponent (l : Literal) : Int :=
  match l.exponent with
  | none => 0
  | some (negative, digits) =>
    let e : Int := digitsValue digits
    if negative then -e else e

/-- The double that a literal denotes, without its sign. -/
def Literal.size? (l : Literal) : Option Float :=
  let (s, e) := l.significand
  let written := l.writtenExponent
  if Nat.pow 2 31 ≤ written then if s = 0 then some 0.0 else none
  else if written ≤ -Nat.pow 2 31 then some 0.0
  else scaled? s (e + written)

/-- The whole number that a literal without fraction and exponent denotes, if it fits 64 bits.
Minus zero is no whole number. -/
def Literal.whole? (l : Literal) : Option Int :=
  if l.fraction = [] ∧ l.exponent.isNone then
    let n := digitsValue l.whole
    if l.negative then if 0 < n ∧ n ≤ Nat.pow 2 63 then some (-(n : Int)) else none
    else if n ≤ maxSignificand then some n
    else none
  else none

/-- The number that a literal denotes, unless it is too large for a double. -/
def Literal.number? (l : Literal) : Option Number :=
  match l.whole? with
  | some n => some (.whole n)
  | none => l.size?.map fun x => .double (if l.negative then -x else x)

/-- Splits an exponent part off: a mark, an optional sign and at least one digit. -/
def readExponentPart? (cs : List Char) : Option (Option (Bool × List Char) × List Char) :=
  match cs with
  | mark :: rest =>
    if mark = 'e' ∨ mark = 'E' then
      let (negative, rest) := splitSign rest
      let (digits, rest) := spanDigits rest
      if digits = [] then none else some (some (negative, digits), rest)
    else some (none, cs)
  | [] => some (none, [])

/-- Splits a fraction off: a point and at least one digit. -/
def readFraction? : List Char → Option (List Char × List Char)
  | '.' :: rest =>
    let (digits, rest) := spanDigits rest
    if digits = [] then none else some (digits, rest)
  | cs => some ([], cs)

/-- Splits a number literal off. Only the number zero starts with a zero. -/
def readLiteral? (cs : List Char) : Option (Literal × List Char) := do
  let (negative, cs) :=
    match cs with
    | '-' :: rest => (true, rest)
    | cs => (false, cs)
  let (whole, cs) := spanDigits cs
  if whole = [] ∨ (whole.head? = some '0' ∧ whole.length ≠ 1) then none
  else
    let (fraction, cs) ← readFraction? cs
    let (exponent, cs) ← readExponentPart? cs
    some (⟨negative, whole, fraction, exponent⟩, cs)

end GeoDrafts.Json
