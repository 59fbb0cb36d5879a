/-!
JSON values. Whole numbers are kept apart from doubles, so that a whole number is written back
as it was read. The members of an object are a list; the values that this library builds have
their members in ascending order of the keys, each key once, which is the order that `insert`
keeps.
-/

namespace GeoDrafts

inductive Json.Number where
  | whole (n : Int)
  | double (x : Float)
  deriving Repr

inductive Json where
  | null
  | bool (b : Bool)
  | number (n : Json.Number)
  | text (s : String)
  | array (items : List Json)
  | object (members : List (String × Json))
  deriving Repr, Inhabited

namespace Json

def Number.toFloat : Number → Float
  | .whole n => Float.ofInt n
  | .double x => x

abbrev Members := List (String × Json)

namespace Members

def find? (key : String) (members : Members) : Option Json :=
  (List.find? (fun m => m.1 == key) members).map (·.2)

/-- Sets the value of a key and keeps the members in ascending order. -/
def insert (key : String) (value : Json) : Members → Members
  | [] => [(key, value)]
  | (k, v) :: rest =>
    if key < k then (key, value) :: (k, v) :: rest
    else if key = k then (key, value) :: rest
    else (k, v) :: insert key value rest

/-- The ordered members, of which a later one with the same key replaces an earlier one. -/
def ofList (members : List (String × Json)) : Members :=
  members.foldl (fun sorted m => sorted.insert m.1 m.2) []

/-- Sets the value of a key that has none yet. -/
def insertNew (key : String) (value : Json) (members : Members) : Members :=
  if (members.find? key).isSome then members else members.insert key value

end Members

/-- The value of an object's member; other values have no members. -/
def member? (key : String) : Json → Option Json
  | .object members => Members.find? key members
  | _ => none

def text? : Json → Option String
  | .text s => some s
  | _ => none

def float? : Json → Option Float
  | .number n => some n.toFloat
  | _ => none

def ofTexts (texts : List (String × String)) : Members :=
  Members.ofList (texts.map fun (k, v) => (k, .text v))

end Json

end GeoDrafts
