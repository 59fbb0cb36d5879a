import GeoDrafts.Feature.Basic
import GeoDrafts.Format.Position
import GeoDrafts.Json.Reader

/-!
Esri JSON. The rings of an area are one list, in which a clockwise ring starts a polygon and
every other ring is a hole of the polygon before it.
-/

namespace GeoDrafts.Esri

/-- Whether a ring runs clockwise, with `y` growing upwards, by the sign of its area. -/
def isClockwise (ring : Ring) : Bool :=
  let terms := (ring.zip ring.tail).map fun (a, b) => (b.x - a.x) * (b.y + a.y)
  0.0 < terms.foldl (· + ·) 0.0

/-- Takes one ring; `polygons` holds the polygons so far, and their rings, in reverse. -/
def addRing (polygons : List (List Ring)) (ring : Ring) : List (List Ring) :=
  match polygons with
  | [] => [[ring]]
  | p :: ps => if isClockwise ring then [ring] :: p :: ps else (ring :: p) :: ps

/-- The polygons that rings form, without the empty rings. -/
def polygonsOfRings (rings : List Ring) : List (List Ring) :=
  ((rings.filter fun r => !r.isEmpty).foldl addRing []).reverse.map List.reverse

def geometryOfRings (rings : List Ring) : Except DecodeError Geometry :=
  match polygonsOfRings rings with
  | [] => .error (.geometry .noRings)
  | [polygon] => .ok (.polygon polygon)
  | polygons => .ok (.multiPolygon polygons)

/-- The geometry of a record, which the first of its members that is known decides. -/
def readGeometry (v : Json) : Except DecodeError Geometry :=
  match (v.member? "x").bind Json.float?, (v.member? "y").bind Json.float? with
  | some x, some y => .ok (.point ⟨x, y⟩)
  | _, _ =>
    match v.member? "points", v.member? "paths", v.member? "rings" with
    | some points, _, _ => (Position.line points).map .multiPoint
    | none, some paths, _ => do
      match ← Position.lines paths with
      | [path] => .ok (.lineString path)
      | paths => .ok (.multiLineString paths)
    | none, none, some rings => do geometryOfRings (← Position.lines rings)
    | none, none, none => .error (.geometry .unrecognizedRecord)

/-- The feature of a record: a geometry, perhaps missing or null, and attributes. -/
def readFeature (v : Json) : Except DecodeError Feature := do
  let geometry ←
    match v.member? "geometry" with
    | none | some .null => .ok none
    | some g => (readGeometry g).map some
  .ok ⟨geometry,
    match v.member? "attributes" with
    | some (.object members) => members
    | _ => []⟩

/-- The features that an object holds: a list of records, one record, or a bare geometry. -/
def decodeValue (v : Json) : Except DecodeError (List Feature) :=
  match v with
  | .object _ =>
    match v.member? "features" with
    | some features => do Position.each readFeature (← Position.items features)
    | none =>
      if (v.member? "geometry").isSome || (v.member? "attributes").isSome then
        (readFeature v).map ([·])
      else (readGeometry v).map fun g => [⟨some g, []⟩]
  | _ => .error (.document .notObject)

def decode (text : String) : Except DecodeError (List Feature) :=
  match Json.read? text with
  | none => .error .json
  | some v => decodeValue v

end GeoDrafts.Esri
