import GeoDrafts.Remote.Host.Number

/-!
The hosts of addresses. On the web a host is a name, which many spellings write, or a number; in
any other address it is a text without certain characters, or a number in brackets.
-/

namespace GeoDrafts.Host

open Text

/-- The bytes of a text in which `%` and two hexadecimal digits stand for a byte. -/
def decodePercent : List UInt8 → List UInt8
  | 0x25 :: a :: b :: rest =>
    match hexDigit? (Char.ofNat a.toNat), hexDigit? (Char.ofNat b.toNat) with
    | some high, some low => UInt8.ofNat (16 * high + low) :: decodePercent rest
    | _, _ => 0x25 :: decodePercent (a :: b :: rest)
  | b :: rest => b :: decodePercent rest
  | [] => []

def isForbidden (c : Char) : Bool :=
  c == '\x00' || "\t\n\r #/:<>?@[\\]^|".toList.contains c

/-- The characters that no name of a host may hold, however they are written. -/
def isForbiddenInName (c : Char) : Bool :=
  isForbidden c || c.toNat < 0x20 || c == '%' || c == '\x7f'

/-- The labels that a name is read as. If one has characters that are written from right to left,
all that are not empty must keep to their direction. -/
def labels? (name : List Char) : Option (List Label) := do
  let images ← name.mapM image?
  let spelled := composed images.flatten
  let labels ← (spelled.splitOn '.').mapM Label.read?
  let isMixed := labels.any Label.hasRightToLeft
  if spelled.any isForbiddenInName then none
  else if isMixed && !labels.all fun label => label.isEmpty || label.isOriented then none
  else some labels

/-- Whether a host in brackets is well formed; the opening one is left out. -/
def isBracketed (rest : List Char) : Bool :=
  rest.getLast? == some ']' && isUnits (String.ofList rest.dropLast)

def isWeb (host : String) : Bool :=
  match host.toList with
  | '[' :: rest => isBracketed rest
  | _ =>
    match (String.fromUTF8? (decodePercent host.toUTF8.toList).toByteArray).bind
        fun name => labels? name.toList with
    | none => false
    | some labels => labels != [[]] && (!endsInNumber labels || isNumeric labels)

/-- Whether a host of any other address is well formed. It may be empty. -/
def isOther (host : String) : Bool :=
  match host.toList with
  | '[' :: rest => isBracketed rest
  | cs => !cs.any isForbidden

end GeoDrafts.Host
