import GeoDrafts.Format.Error
import GeoDrafts.Geometry.Basic
import GeoDrafts.Json.Value

/-!
Positions in JSON documents: an array whose first two elements are numbers. Further elements do
not count. Also nested arrays of positions.
-/

namespace GeoDrafts.Position

def items (v : Json) : Except DecodeError (List Json) :=
  match v with
  | .array items => .ok items
  | _ => .error (.geometry .notArray)

/-- Reads each value; the first fault is the fault of all. -/
def each {α : Type} (read : Json → Except DecodeError α) :
    List Json → Except DecodeError (List α)
  | [] => .ok []
  | v :: vs => do
    let x ← read v
    let xs ← each read vs
    .ok (x :: xs)

def coord (v : Json) : Except DecodeError Coord :=
  match v with
  | .array (x :: y :: _) =>
    match x.float?, y.float? with
    | some x, some y => .ok ⟨x, y⟩
    | _, _ => .error (.geometry .positionTooShort)
  | .array _ => .error (.geometry .positionTooShort)
  | _ => .error (.geometry .positionNotArray)

def line (v : Json) : Except DecodeError Ring := do each coord (← items v)

def lines (v : Json) : Except DecodeError (List Ring) := do each line (← items v)

def polygons (v : Json) : Except DecodeError (List (List Ring)) := do each lines (← items v)

end GeoDrafts.Position
