import GeoDrafts.Json.Value

/-!
What a JSON text says before anything is made of it. A document keeps the members of an object
as they were written, with repeated keys, and it may hold numbers and texts that no value can
hold: a number too large for a double, a text with half of a surrogate pair. Reading it as a
value refuses those and limits the nesting; reading it as a record looks only at the fields of
the record.
-/

namespace GeoDrafts.Json

inductive Document where
  | null
  | bool (b : Bool)
  | number (n : Option Number)
  | text (s : Option String)
  | array (items : List Document)
  | object (members : List (Option String × Document))
  deriving Repr, Inhabited

def maxDepth : Nat := 127

mutual

/-- The value that a document stands for, with at most `room` arrays and objects around each
other. -/
def Document.value? : Nat → Document → Option Json
  | _, .null => some .null
  | _, .bool b => some (.bool b)
  | _, .number n => n.map .number
  | _, .text s => s.map .text
  | 0, .array _ => none
  | 0, .object _ => none
  | room + 1, .array items => (Document.values? room items).map .array
  | room + 1, .object members =>
    (Document.members? room members).map fun ms => .object (Members.ofList ms)

def Document.values? : Nat → List Document → Option (List Json)
  | _, [] => some []
  | room, d :: ds => do
    let v ← Document.value? room d
    let vs ← Document.values? room ds
    some (v :: vs)

def Document.members? : Nat → List (Option String × Document) → Option (List (String × Json))
  | _, [] => some []
  | room, (key, d) :: rest => do
    let key ← key
    let v ← Document.value? room d
    let vs ← Document.members? room rest
    some ((key, v) :: vs)

end

mutual

def toDocument : Json → Document
  | .null => .null
  | .bool b => .bool b
  | .number n => .number (some n)
  | .text s => .text (some s)
  | .array items => .array (toDocuments items)
  | .object members => .object (memberDocuments members)

def toDocuments : List Json → List Document
  | [] => []
  | v :: vs => toDocument v :: toDocuments vs

def memberDocuments : List (String × Json) → List (Option String × Document)
  | [] => []
  | (key, v) :: rest => (some key, toDocument v) :: memberDocuments rest

end

namespace Document

def float? : Document → Option Float
  | .number (some n) => if n.toFloat.isFinite then some n.toFloat else none
  | _ => none

def isObject : Document → Bool
  | .object _ => true
  | _ => false

def text? : Document → Option String
  | .text s => s
  | _ => none

/-- The natural number below `bound` that a whole number denotes. -/
def natural? (bound : Nat) : Document → Option Nat
  | .number (some (.whole n)) => if 0 ≤ n ∧ n < bound then some n.toNat else none
  | _ => none

def list? {α : Type} (f : Document → Option α) : Document → Option (List α)
  | .array items => items.mapM f
  | _ => none

/-- The only member with a key: none is missing, two are an error. -/
def field? (members : List (String × Document)) (name : String) : Option (Option Document) :=
  match members.filter fun m => m.1 == name with
  | [] => some none
  | [m] => some (some m.2)
  | _ => none

/-- The documents of a record's fields. A record is an object, whose other members are ignored,
or an array of the fields in their order, of which those at the end may be missing. -/
def record? (names : List String) : Document → Option (List (Option Document))
  | .object members => do
    let members ← members.mapM fun m => m.1.map fun key => (key, m.2)
    names.mapM (field? members)
  | .array items =>
    if items.length ≤ names.length then
      some (items.map some ++ List.replicate (names.length - items.length) none)
    else none
  | _ => none

end Document

end GeoDrafts.Json
