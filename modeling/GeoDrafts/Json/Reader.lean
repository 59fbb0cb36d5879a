import GeoDrafts.Json.Document
import GeoDrafts.Json.Literal
import GeoDrafts.Text.Numeral

/-!
JSON text as a document. The grammar is strict: blanks are space, tab, line feed and carriage
return, texts hold no control characters, and nothing but blanks follows the document.
-/

namespace GeoDrafts.Json

def isSpace (c : Char) : Bool := c == ' ' || c == '\t' || c == '\n' || c == '\r'

def skipSpace (cs : List Char) : List Char := cs.dropWhile isSpace

def shortEscape? : Char → Option Char
  | '"' => some '"'
  | '\\' => some '\\'
  | '/' => some '/'
  | 'b' => some '\x08'
  | 'f' => some '\x0c'
  | 'n' => some '\n'
  | 'r' => some '\r'
  | 't' => some '\t'
  | _ => none

/-- The code points and escaped 16-bit units of a text up to its closing quote, and what follows
the quote; `read` holds those already read, in reverse. -/
def readUnits? (read : List Nat) : List Char → Option (List Nat × List Char)
  | '"' :: rest => some (read.reverse, rest)
  | '\\' :: 'u' :: a :: b :: c :: d :: rest => do
    let a ← Text.hexDigit? a
    let b ← Text.hexDigit? b
    let c ← Text.hexDigit? c
    let d ← Text.hexDigit? d
    readUnits? ((((a * 16 + b) * 16 + c) * 16 + d) :: read) rest
  | '\\' :: c :: rest => do
    let c ← shortEscape? c
    readUnits? (c.toNat :: read) rest
  | c :: rest => if c.toNat < 0x20 then none else readUnits? (c.toNat :: read) rest
  | [] => none

/-- Joins surrogate pairs; half a pair is no character. -/
def joinUnits? : List Nat → Option (List Char)
  | [] => some []
  | unit :: rest =>
    if 0xD800 ≤ unit ∧ unit < 0xDC00 then
      match rest with
      | low :: rest =>
        if 0xDC00 ≤ low ∧ low < 0xE000 then
          (joinUnits? rest).map
            (Char.ofNat (0x10000 + (unit - 0xD800) * 0x400 + (low - 0xDC00)) :: ·)
        else none
      | [] => none
    else if 0xDC00 ≤ unit ∧ unit < 0xE000 then none
    else (joinUnits? rest).map (Char.ofNat unit :: ·)

/-- The rest of a text after its opening quote. -/
def readText? (cs : List Char) : Option (Option String × List Char) :=
  (readUnits? [] cs).map fun (units, rest) => ((joinUnits? units).map String.ofList, rest)

mutual

/-- Splits one document off. Each call uses fuel, of which two units for each character are
enough. -/
def readDocument? : Nat → List Char → Option (Document × List Char)
  | 0, _ => none
  | fuel + 1, cs =>
    match skipSpace cs with
    | '{' :: rest =>
      match skipSpace rest with
      | '}' :: rest => some (.object [], rest)
      | rest => readMembers? fuel [] rest
    | '[' :: rest =>
      match skipSpace rest with
      | ']' :: rest => some (.array [], rest)
      | rest => readItems? fuel [] rest
    | '"' :: rest => (readText? rest).map fun (s, rest) => (.text s, rest)
    | 'n' :: 'u' :: 'l' :: 'l' :: rest => some (.null, rest)
    | 't' :: 'r' :: 'u' :: 'e' :: rest => some (.bool true, rest)
    | 'f' :: 'a' :: 'l' :: 's' :: 'e' :: rest => some (.bool false, rest)
    | rest => (readLiteral? rest).map fun (l, rest) => (.number l.number?, rest)

/-- The rest of an array; `read` holds the items so far in reverse. -/
def readItems? : Nat → List Document → List Char → Option (Document × List Char)
  | 0, _, _ => none
  | fuel + 1, read, cs =>
    match readDocument? fuel cs with
    | none => none
    | some (item, rest) =>
      match skipSpace rest with
      | ',' :: rest => readItems? fuel (item :: read) rest
      | ']' :: rest => some (.array (item :: read).reverse, rest)
      | _ => none

/-- The rest of an object; `read` holds the members so far in reverse. -/
def readMembers? : Nat → List (Option String × Document) → List Char →
    Option (Document × List Char)
  | 0, _, _ => none
  | fuel + 1, read, cs =>
    match skipSpace cs with
    | '"' :: rest =>
      match readText? rest with
      | none => none
      | some (key, rest) =>
        match skipSpace rest with
        | ':' :: rest =>
          match readDocument? fuel rest with
          | none => none
          | some (value, rest) =>
            match skipSpace rest with
            | ',' :: rest => readMembers? fuel ((key, value) :: read) rest
            | '}' :: rest => some (.object ((key, value) :: read).reverse, rest)
            | _ => none
        | _ => none
    | _ => none

end

def Document.read? (text : String) : Option Document :=
  let cs := text.toList
  match readDocument? (2 * cs.length + 2) cs with
  | some (d, rest) => if skipSpace rest = [] then some d else none
  | none => none

def read? (text : String) : Option Json := (Document.read? text).bind (·.value? maxDepth)

end GeoDrafts.Json
