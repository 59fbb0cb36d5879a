import GeoDrafts.Feature.Basic
import GeoDrafts.Format.Wkt.Phrase

/-!
Well-known text: one geometry, perhaps after the number of its reference system. Offsets in
errors count bytes from after that number.
-/

namespace GeoDrafts.Wkt

/-- The spellings of the letters before the number of a reference system. Without regard to case,
the long s is an s. -/
def systemLetters : List (List Char) := [['S', 's', 'ſ'], ['R', 'r'], ['I', 'i'], ['D', 'd']]

/-- Drops one character for each list, which must hold it. -/
def dropLetters? : List (List Char) → List Char → Option (List Char)
  | [], cs => some cs
  | letters :: more, c :: cs => if c ∈ letters then dropLetters? more cs else none
  | _ :: _, [] => none

/-- The text after the number of a reference system, if it starts with one. -/
def afterSystem? (cs : List Char) : Option (List Char) :=
  match dropLetters? systemLetters (cs.dropWhile Text.isBlankChar) with
  | some ('=' :: rest) =>
    let (digits, rest) := spanDecimals rest
    match rest.dropWhile Text.isBlankChar with
    | ';' :: rest => if digits = [] then none else some rest
    | _ => none
  | _ => none

/-- The text without the number of its reference system. -/
def body (cs : List Char) : List Char := (afterSystem? cs).getD cs

/-- The feature that a text writes, or none for a point without coordinates. -/
def decode (text : String) : Except DecodeError (List Feature) := do
  let cs := body text.toList
  let ts ← tokens cs
  match readPhrase ts with
  | .error stop => .error (.wkt (stop.offset (byteLength cs)) stop.fault)
  | .ok none => .ok []
  | .ok (some g) => .ok [⟨some g, []⟩]

end GeoDrafts.Wkt
