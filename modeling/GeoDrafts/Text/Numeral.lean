/-!
Numerals in a base up to sixteen.
-/

namespace GeoDrafts.Text

def hexDigit? (c : Char) : Option Nat :=
  if c.isDigit then some (c.toNat - 48)
  else if 'a' ≤ c ∧ c ≤ 'f' then some (c.toNat - 87)
  else if 'A' ≤ c ∧ c ≤ 'F' then some (c.toNat - 55)
  else none

/-- The number that digits denote in a base; no digits denote zero. -/
def numeral? (base : Nat) (digits : List Char) : Option Nat :=
  (digits.mapM fun c => (hexDigit? c).filter (· < base)).map
    fun values => values.foldl (fun n d => base * n + d) 0

end GeoDrafts.Text
