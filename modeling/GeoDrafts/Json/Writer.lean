import GeoDrafts.Decimal.Layout
import GeoDrafts.Json.Value

/-!
JSON values as text, either on one line without blanks or over several lines with an indent of
two spaces. Members are written in the order in which the object holds them.
-/

namespace GeoDrafts.Json

/-- The text of a number. A double that is not finite has no JSON form and is written as
`null`. -/
def Number.write : Number → String
  | .whole n => toString n
  | .double x => if x.isFinite then Decimal.Layout.document.write x else "null"

def hexText (n : Nat) : String :=
  let digits := String.ofList (Nat.toDigits 16 n)
  Decimal.zeros (4 - digits.length) ++ digits

def escape (c : Char) : String :=
  if c = '"' then "\\\""
  else if c = '\\' then "\\\\"
  else if c = '\x08' then "\\b"
  else if c = '\x0c' then "\\f"
  else if c = '\n' then "\\n"
  else if c = '\r' then "\\r"
  else if c = '\t' then "\\t"
  else if c.toNat < 0x20 then "\\u" ++ hexText c.toNat
  else c.toString

def quoted (s : String) : String := "\"" ++ String.join (s.toList.map escape) ++ "\""

mutual

/-- The text on one line. -/
def write : Json → String
  | .null => "null"
  | .bool b => toString b
  | .number n => n.write
  | .text s => quoted s
  | .array items => "[" ++ ",".intercalate (writeItems items) ++ "]"
  | .object members => "\x7b" ++ ",".intercalate (writeMembers members) ++ "\x7d"

def writeItems : List Json → List String
  | [] => []
  | v :: vs => write v :: writeItems vs

def writeMembers : List (String × Json) → List String
  | [] => []
  | (key, v) :: rest => (quoted key ++ ":" ++ write v) :: writeMembers rest

end

def lineBreak (depth : Nat) : String := "\n" ++ String.ofList (List.replicate (2 * depth) ' ')

/-- Entries on lines of their own between two brackets; without entries the brackets touch. -/
def block (opening closing : String) (depth : Nat) (entries : List String) : String :=
  if entries.isEmpty then opening ++ closing
  else
    opening ++ lineBreak (depth + 1) ++ ("," ++ lineBreak (depth + 1)).intercalate entries ++
      lineBreak depth ++ closing

mutual

/-- The text over several lines, for a value that stands `depth` levels deep. -/
def writeLines (depth : Nat) : Json → String
  | .null => "null"
  | .bool b => toString b
  | .number n => n.write
  | .text s => quoted s
  | .array items => block "[" "]" depth (lineItems depth items)
  | .object members => block "\x7b" "\x7d" depth (lineMembers depth members)

def lineItems (depth : Nat) : List Json → List String
  | [] => []
  | v :: vs => writeLines (depth + 1) v :: lineItems depth vs

def lineMembers (depth : Nat) : List (String × Json) → List String
  | [] => []
  | (key, v) :: rest =>
    (quoted key ++ ": " ++ writeLines (depth + 1) v) :: lineMembers depth rest

end

/-- The text over several lines. -/
def pretty (v : Json) : String := writeLines 0 v

end GeoDrafts.Json
