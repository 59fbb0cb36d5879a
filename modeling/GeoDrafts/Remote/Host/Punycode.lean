/-!
Punycode: a text as ASCII letters and digits. The ASCII characters of the text come first, up to
the last hyphen. What follows are numbers that say, for one character after the other in ascending
order, how far it is from the one before, counted in places of the text and then in code points.
The digits of a number tell by themselves where it ends, by thresholds that adapt to the size of
the numbers before it.
-/

namespace GeoDrafts.Host.Punycode

def base : Nat := 36

def bound : Nat := Nat.pow 2 32

/-- The value of a digit: letters of either case come before the digits from zero to nine. -/
def digit? (c : Char) : Option Nat :=
  if 'a' ≤ c ∧ c ≤ 'z' then some (c.toNat - 97)
  else if 'A' ≤ c ∧ c ≤ 'Z' then some (c.toNat - 65)
  else if c.isDigit then some (c.toNat - 48 + 26)
  else none

/-- The digit from which on more digits follow; `place` is `base` for the first one and grows by
`base` with each. -/
def threshold (bias place : Nat) : Nat :=
  if place ≤ bias then 1 else if bias + 26 ≤ place then 26 else place - bias

/-- Divides a number until it is small, and adds `base` for each time. -/
def shrink (delta bias : Nat) : Nat :=
  if 455 < delta then shrink (delta / 35) (bias + base) else bias + base * delta / (delta + 38)
termination_by delta
decreasing_by omega

/-- The bias after a number, where the text has `count` characters by then. -/
def adapt (isFirst : Bool) (delta count : Nat) : Nat :=
  let delta := if isFirst then delta / 700 else delta / 2
  shrink (delta + delta / count) 0

/-- Adds the number at the front to `total`, and says what follows it; `weight` is what the next
digit counts. -/
def readNumber? (bias place weight total : Nat) : List Char → Option (Nat × List Char)
  | [] => none
  | c :: rest =>
    match digit? c with
    | none => none
    | some digit =>
      let total := total + digit * weight
      let limit := threshold bias place
      if bound ≤ total then none
      else if digit < limit then some (total, rest)
      else if bound ≤ weight * (base - limit) then none
      else readNumber? bias (place + base) (weight * (base - limit)) total rest

theorem length_of_readNumber? {bias place weight total : Nat} {cs rest : List Char} {n : Nat}
    (h : readNumber? bias place weight total cs = some (n, rest)) : rest.length < cs.length := by
  fun_induction readNumber? bias place weight total cs with
  | case1 => simp at h
  | case2 => simp at h
  | case3 => simp at h
  | case4 => simp_all
  | case5 => simp at h
  | case6 place weight total c cs digit _ total' limit _ _ _ ih =>
    exact Nat.lt_trans (ih h) (by simp)

/-- Inserts the characters that the numbers stand for into a text. `code` is the last character
inserted, at least U+0080, and `index` the place after it. -/
def insertAll? (text : List Char) (code bias index : Nat) (cs : List Char) : Option (List Char) :=
  if cs.isEmpty then some text
  else
    match h : readNumber? bias base 1 index cs with
    | none => none
    | some (total, rest) =>
      let count := text.length + 1
      let code := code + total / count
      if code.isValidChar then
        have : rest.length < cs.length := length_of_readNumber? h
        insertAll? (text.insertIdx (total % count) (Char.ofNat code)) code
          (adapt (index == 0) (total - index) count) (total % count + 1) rest
      else none
termination_by cs.length

/-- The text that a code stands for. A hyphen in front ends no ASCII characters. -/
def decode? (code : List Char) : Option (List Char) :=
  let numbers := (code.reverse.takeWhile (· != '-')).reverse
  let ascii := code.take (code.length - numbers.length - 1)
  if !code.all (fun c => c.toNat < 0x80) then none
  else insertAll? ascii 0x80 72 0 (if ascii.isEmpty then code else numbers)

end GeoDrafts.Host.Punycode
