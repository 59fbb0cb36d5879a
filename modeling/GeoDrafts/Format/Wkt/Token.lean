import GeoDrafts.Decimal.Reading
import GeoDrafts.Format.Error
import GeoDrafts.Text.Blank
import GeoDrafts.Text.DecimalDigit

/-!
The tokens of well-known text: words, numbers, parentheses and commas, with the byte offset at
which each starts. Blanks separate tokens. Words are in upper case.
-/

namespace GeoDrafts.Wkt

inductive Token where
  | word (w : String)
  | number (x : Float)
  | opening
  | closing
  | comma
  deriving DecidableEq, Repr

structure Lexeme where
  offset : Nat
  token : Token
  deriving DecidableEq, Repr

def byteLength (cs : List Char) : Nat := cs.foldl (fun n c => n + c.utf8Size) 0

def spanSign : List Char → List Char × List Char
  | '-' :: rest => (['-'], rest)
  | '+' :: rest => (['+'], rest)
  | cs => ([], cs)

/-- Leading decimal digits of any script, and the rest. -/
def spanDecimals (cs : List Char) : List Char × List Char := cs.span Text.isDecimalDigit

/-- The digits of a number with a point after, among or before them, and the rest. -/
def splitMantissa? (cs : List Char) : Option (List Char × List Char) :=
  match spanDecimals cs with
  | ([], '.' :: rest) =>
    let (fraction, rest) := spanDecimals rest
    if fraction = [] then none else some ('.' :: fraction, rest)
  | ([], _) => none
  | (whole, '.' :: rest) =>
    let (fraction, rest) := spanDecimals rest
    some (whole ++ '.' :: fraction, rest)
  | (whole, rest) => some (whole, rest)

/-- An exponent with at least one digit, if there is one at the front, and the rest. -/
def spanExponent (cs : List Char) : List Char × List Char :=
  match cs with
  | mark :: rest =>
    if mark = 'e' ∨ mark = 'E' then
      let (sign, rest) := spanSign rest
      let (digits, rest) := spanDecimals rest
      if digits = [] then ([], cs) else (mark :: sign ++ digits, rest)
    else ([], cs)
  | [] => ([], [])

/-- Splits the longest number off. -/
def splitNumber? (cs : List Char) : Option (List Char × List Char) := do
  let (sign, rest) := spanSign cs
  let (mantissa, rest) ← splitMantissa? rest
  let (exponent, rest) := spanExponent rest
  some (sign ++ mantissa ++ exponent, rest)

def strayText (offset : Nat) (cs : List Char) : DecodeError :=
  .wkt offset (.strayText (String.ofList cs))

/-- The tokens of a text that starts at a byte offset. A number must have ASCII digits only. -/
def tokensFrom : Nat → Nat → List Char → Except DecodeError (List Lexeme)
  | 0, _, _ => .ok []
  | _, _, [] => .ok []
  | fuel + 1, offset, c :: cs =>
    let single (token : Token) := do
      let more ← tokensFrom fuel (offset + c.utf8Size) cs
      .ok (⟨offset, token⟩ :: more)
    if Text.isBlankChar c then tokensFrom fuel (offset + c.utf8Size) cs
    else if c = '(' then single .opening
    else if c = ')' then single .closing
    else if c = ',' then single .comma
    else if c.isAlpha then do
      let word := c :: cs.takeWhile Char.isAlpha
      let more ← tokensFrom fuel (offset + word.length) (cs.dropWhile Char.isAlpha)
      .ok (⟨offset, .word (String.ofList word).toUpper⟩ :: more)
    else
      match splitNumber? (c :: cs) with
      | none => .error (strayText offset [c])
      | some (text, rest) =>
        match Decimal.readFloat? text with
        | none => .error (strayText offset text)
        | some x => do
          let more ← tokensFrom fuel (offset + byteLength text) rest
          .ok (⟨offset, .number x⟩ :: more)

def tokens (cs : List Char) : Except DecodeError (List Lexeme) := tokensFrom cs.length 0 cs

end GeoDrafts.Wkt
