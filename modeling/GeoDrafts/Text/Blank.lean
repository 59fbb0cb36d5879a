/-!
Blank characters, the Unicode property White_Space: trimming a text at both ends, splitting it
into words, and asking whether it holds anything else.
-/

namespace GeoDrafts.Text

/-- The 25 characters with the property White_Space. -/
def isBlankChar (c : Char) : Bool :=
  let n := c.toNat
  (0x9 ≤ n && n ≤ 0xD) || n == 0x20 || n == 0x85 || n == 0xA0 || n == 0x1680 ||
    (0x2000 ≤ n && n ≤ 0x200A) || n == 0x2028 || n == 0x2029 || n == 0x202F || n == 0x205F ||
    n == 0x3000

/-- Removes the elements that satisfy `p` at both ends. -/
def trimBy (p : Char → Bool) (cs : List Char) : List Char :=
  ((cs.dropWhile p).reverse.dropWhile p).reverse

def trimChars (cs : List Char) : List Char := trimBy isBlankChar cs

def trim (s : String) : String := String.ofList (trimChars s.toList)

def isBlank (s : String) : Bool := s.toList.all isBlankChar

def nonBlank? (s : String) : Option String := if isBlank s then none else some s

/-- The maximal runs without a blank character; `word` holds the current run in reverse. -/
def wordsFrom (word : List Char) : List Char → List (List Char)
  | [] => if word.isEmpty then [] else [word.reverse]
  | c :: cs =>
    if isBlankChar c then
      if word.isEmpty then wordsFrom [] cs else word.reverse :: wordsFrom [] cs
    else wordsFrom (c :: word) cs

/-- The maximal runs of a text that hold no blank character. -/
def words (s : String) : List String := (wordsFrom [] s.toList).map String.ofList

end GeoDrafts.Text
