import GeoDrafts.Remote.Host.Image
import GeoDrafts.Remote.Host.Punycode
import GeoDrafts.Text.Composition
import GeoDrafts.Text.Direction
import GeoDrafts.Text.Joining

/-!
The labels of a host name, the parts between its points. A label is written as itself or, after
`xn--`, in Punycode. It does not begin with a mark, and characters that show only in how their
neighbours are drawn stand where they show.
-/

namespace GeoDrafts.Host

open Text

abbrev Label := List Char

def maxCodeLength : Nat := 2000

/-- The longest label with characters outside ASCII. -/
def maxLabelLength : Nat := 1000

def isAscii (c : Char) : Bool := c.toNat < 0x80

namespace Label

/-! ## Joiners -/

def nonJoiner : Char := '\u200c'

def joiner : Char := '\u200d'

/-- Whether the first of the characters that are not transparent satisfies `p`. -/
def meets (p : Char → Bool) (cs : List Char) : Bool :=
  ((cs.dropWhile isTransparent).head?.map p).getD false

/-- Whether a character may stand between others, of which those before it are given in reverse. A
joiner comes after a virama; so does a nonjoiner, or it parts two characters that would join. -/
def fits (before : List Char) (c : Char) (after : List Char) : Bool :=
  if c = joiner ∨ c = nonJoiner then
    match before with
    | [] => false
    | previous :: _ =>
      combiningClass previous == viramaClass ||
        (c == nonJoiner && meets joinsNext before && meets joinsPrevious after)
  else true

def allFit (before : List Char) : List Char → Bool
  | [] => true
  | c :: after => fits before c after && allFit (c :: before) after

/-! ## Reading -/

/-- Whether a label that is not written in code is well formed. -/
def isSound (label : Label) : Bool :=
  !(label.head?.map isMark).getD false && allFit [] label &&
    (label.all isAscii || label.length ≤ maxLabelLength)

/-- The label that a code stands for. A code is used only for what cannot be written without it,
and only for what is read as itself. -/
def ofCode? (code : List Char) : Option Label :=
  if maxCodeLength < code.length then none
  else
    (Punycode.decode? code).filter fun label =>
      !label.all isAscii && label.all isOwnImage && composed label == label

def read? (written : Label) : Option Label :=
  (match written with
  | 'x' :: 'n' :: '-' :: '-' :: code => ofCode? code
  | label => some label).filter isSound

/-! ## Direction -/

def hasRightToLeft (label : Label) : Bool :=
  label.any fun c => direction c == .rightToLeft || direction c == .arabicDigit

/-- The directions of a label without the marks at its end. -/
def directions (label : Label) : List Direction :=
  ((label.map direction).reverse.dropWhile (· == .mark)).reverse

/-- Whether a label can stand beside labels of the other direction: it begins with a letter, ends
with a letter of the same direction or a digit, and holds no letter of the other direction; from
right to left it has digits of one kind only. -/
def isOriented (label : Label) : Bool :=
  let ds := directions label
  match ds.head?, ds.getLast? with
  | some .leftToRight, some last =>
    (last == .leftToRight || last == .europeanDigit) &&
      ds.all fun d => d != .rightToLeft && d != .arabicDigit
  | some .rightToLeft, some last =>
    (last == .rightToLeft || last == .europeanDigit || last == .arabicDigit) &&
      !ds.contains .leftToRight && !(ds.contains .europeanDigit && ds.contains .arabicDigit)
  | _, _ => false

end Label

end GeoDrafts.Host
