import GeoDrafts.Geometry.Basic
import GeoDrafts.Json.Document

/-!
Geometries as JSON: a kind and nested arrays of coordinates, each an array of numbers. Any
geometry can be written so. Only the two kinds that bound an area are read back here, as records
with exactly two numbers a coordinate.
-/

namespace GeoDrafts

open Json

namespace Coord

def toJson (c : Coord) : Json := .array [.number (.double c.x), .number (.double c.y)]

def ofDocument? : Document → Option Coord
  | .array [x, y] => do
    let x ← x.float?
    let y ← y.float?
    some ⟨x, y⟩
  | _ => none

end Coord

namespace Ring

def toJson (ring : Ring) : Json := .array (ring.map Coord.toJson)

def listToJson (rings : List Ring) : Json := .array (rings.map toJson)

def polygonsToJson (polygons : List (List Ring)) : Json := .array (polygons.map listToJson)

def ofDocument? : Document → Option Ring := Document.list? Coord.ofDocument?

end Ring

def tagged (kind : GeometryKind) (contentKey : String) (content : Json) : Json :=
  .object [("type", .text kind.name), (contentKey, content)]

mutual

def Geometry.toJson : Geometry → Json
  | .point c => tagged .point "coordinates" c.toJson
  | .multiPoint cs => tagged .multiPoint "coordinates" (Ring.toJson cs)
  | .lineString line => tagged .lineString "coordinates" (Ring.toJson line)
  | .linearRing ring => tagged .linearRing "coordinates" (Ring.toJson ring)
  | .multiLineString lines => tagged .multiLineString "coordinates" (Ring.listToJson lines)
  | .polygon rings => tagged .polygon "coordinates" (Ring.listToJson rings)
  | .multiPolygon polygons => tagged .multiPolygon "coordinates" (Ring.polygonsToJson polygons)
  | .collection children =>
    tagged .geometryCollection "geometries" (.array (Geometry.childrenToJson children))

def Geometry.childrenToJson : List Geometry → List Json
  | [] => []
  | g :: gs => g.toJson :: Geometry.childrenToJson gs

end

namespace PolygonGeometry

def toJson (g : PolygonGeometry) : Json := g.toGeometry.toJson

def kindOfName? (name : String) : Option GeometryKind :=
  if name = GeometryKind.polygon.name then some .polygon
  else if name = GeometryKind.multiPolygon.name then some .multiPolygon
  else none

/-- The kind that a record names: as a text, or, where the record is an object, also as an object
of one member without a value. -/
def kindOfDocument? (inObject : Bool) : Document → Option GeometryKind
  | .text (some name) => kindOfName? name
  | .object [(some name, .null)] => if inObject then kindOfName? name else none
  | _ => none

/-- The geometry that a record holds: both fields are needed, in any order. -/
def ofDocument? (d : Document) : Option PolygonGeometry := do
  let fields ← d.record? ["type", "coordinates"]
  match fields with
  | [some kind, some content] =>
    match ← kindOfDocument? d.isObject kind with
    | .polygon => (content.list? Ring.ofDocument?).map .polygon
    | .multiPolygon => (content.list? (Document.list? Ring.ofDocument?)).map .multiPolygon
    | _ => none
  | _ => none

end PolygonGeometry

end GeoDrafts
