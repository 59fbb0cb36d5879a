import GeoDrafts.Text.Numeral

/-!
References in markup text: `&` up to `;` stands for one character, by name or by number.
-/

namespace GeoDrafts.Markup

def namedCharacter? (name : List Char) : Option Char :=
  if name = "lt".toList then some '<'
  else if name = "gt".toList then some '>'
  else if name = "amp".toList then some '&'
  else if name = "apos".toList then some '\''
  else if name = "quot".toList then some '"'
  else none

/-- The number that digits denote in a base, if there are at most `limit` of them. -/
def digitsIn? (base limit : Nat) (digits : List Char) : Option Nat :=
  if digits.length ≤ limit then Text.numeral? base digits else none

/-- The character with a code point, which is neither zero nor half of a surrogate pair. -/
def character? (code : Nat) : Option Char :=
  if code ≠ 0 ∧ code.isValidChar then some (Char.ofNat code) else none

def referenced? : List Char → Option Char
  | '#' :: 'x' :: digits => (digitsIn? 16 6 digits).bind character?
  | '#' :: digits => (digitsIn? 10 7 digits).bind character?
  | name => namedCharacter? name

/-- Puts characters in the place of references. While a reference is open, `name` holds what was
read of it in reverse. -/
def resolveFrom? : Option (List Char) → List Char → Option (List Char)
  | none, [] => some []
  | some _, [] => none
  | none, '&' :: cs => resolveFrom? (some []) cs
  | none, c :: cs => (resolveFrom? none cs).map (c :: ·)
  | some _, '&' :: _ => none
  | some name, ';' :: cs => do
    let c ← referenced? name.reverse
    let rest ← resolveFrom? none cs
    some (c :: rest)
  | some name, c :: cs => resolveFrom? (some (c :: name)) cs

@[simp]
theorem resolveFrom?_amp (cs : List Char) :
    resolveFrom? none ('&' :: cs) = resolveFrom? (some []) cs := rfl

@[simp]
theorem resolveFrom?_of_ne {c : Char} (hc : c ≠ '&') (cs : List Char) :
    resolveFrom? none (c :: cs) = (resolveFrom? none cs).map (c :: ·) := by
  rw [resolveFrom?]
  exact hc

@[simp]
theorem resolveFrom?_open_amp (name cs : List Char) :
    resolveFrom? (some name) ('&' :: cs) = none := rfl

@[simp]
theorem resolveFrom?_close (name cs : List Char) :
    resolveFrom? (some name) (';' :: cs) =
      (referenced? name.reverse).bind fun c => (resolveFrom? none cs).map (c :: ·) := by
  rw [resolveFrom?]
  cases referenced? name.reverse with
  | none => rfl
  | some c => cases resolveFrom? none cs <;> rfl

@[simp]
theorem resolveFrom?_open_of_ne {c : Char} (hamp : c ≠ '&') (hsemi : c ≠ ';')
    (name cs : List Char) :
    resolveFrom? (some name) (c :: cs) = resolveFrom? (some (c :: name)) cs := by
  rw [resolveFrom?]
  · exact hamp
  · exact hsemi

/-- The text that a raw text stands for, unless a reference in it is malformed. -/
def resolve? (cs : List Char) : Option String := (resolveFrom? none cs).map String.ofList

end GeoDrafts.Markup
