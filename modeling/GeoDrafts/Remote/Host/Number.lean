import GeoDrafts.Decimal.Reading
import GeoDrafts.Remote.Host.Label

/-!
Hosts that are numbers instead of names: 32 bits as up to four numbers between points, or 128 bits
in brackets as 16-bit units between colons.
-/

namespace GeoDrafts.Host

open Text

/-- A part of a numeric host: hexadecimal after `0x`, octal after `0`, else decimal. -/
def readNumber? : Label → Option Nat
  | [] => none
  | '0' :: x :: digits =>
    if x = 'x' ∨ x = 'X' then numeral? 16 digits else numeral? 8 (x :: digits)
  | digits => numeral? 10 digits

/-- The labels without an empty one at the end. -/
def withoutRoot (labels : List Label) : List Label :=
  if labels.getLast? = some [] ∧ labels.length ≠ 1 then labels.dropLast else labels

/-- Whether a host ends in a number, which makes it a numeric host. -/
def endsInNumber (labels : List Label) : Bool :=
  match (withoutRoot labels).getLast? with
  | none => false
  | some label =>
    (!label.isEmpty && label.all Char.isDigit) ||
      ((label.take 2 == ['0', 'x'] || label.take 2 == ['0', 'X']) && (readNumber? label).isSome)

/-- Whether a numeric host has at most four parts that fit 32 bits together: one byte each, and
the last part the bytes that are left. -/
def isNumeric (labels : List Label) : Bool :=
  match (withoutRoot labels).mapM readNumber? with
  | none => false
  | some parts =>
    match parts.getLast? with
    | none => false
    | some last =>
      decide (parts.length ≤ 4) && parts.dropLast.all (· ≤ 255) &&
        decide (last < Nat.pow 256 (5 - parts.length))

/-- The number of 16-bit units in groups between colons; the last group may be four decimal bytes,
which count as two. -/
def countUnits? : List String → Option Nat
  | [] => some 0
  | group :: rest =>
    let cs := group.toList
    if rest.isEmpty && cs.contains '.' then
      let bytes := group.splitOn "."
      let isByte (s : String) :=
        s.toList ≠ [] ∧ s.toList.all Char.isDigit ∧ s.length ≤ 3 ∧
          Decimal.digitsValue s.toList ≤ 255 ∧ (s.length = 1 ∨ s.toList.head? ≠ some '0')
      if bytes.length = 4 ∧ ∀ s ∈ bytes, isByte s then some 2 else none
    else if 1 ≤ cs.length ∧ cs.length ≤ 4 ∧ cs.all fun c => (hexDigit? c).isSome then
      (countUnits? rest).map (· + 1)
    else none

/-- Whether a host in brackets is eight 16-bit units, or fewer with one double colon that stands
for the missing ones. -/
def isUnits (host : String) : Bool :=
  let groups (s : String) := if s.isEmpty then [] else s.splitOn ":"
  match host.splitOn "::" with
  | [all] => countUnits? (groups all) == some 8
  | [left, right] =>
    match countUnits? (groups left), countUnits? (groups right) with
    | some l, some r => decide (l + r ≤ 7) && !left.toList.contains '.'
    | _, _ => false
  | _ => false

end GeoDrafts.Host
