/-!
Geometries. They are plain containers of coordinates: whether a coordinate is a longitude and a
latitude or a pair of metres is known to whoever holds it. Task drafts are made of the two kinds
that bound an area, which form a type of their own.
-/

namespace GeoDrafts

/-- A longitude or easting `x` and a latitude or northing `y`. -/
structure Coord where
  x : Float
  y : Float
  deriving DecidableEq, Repr, Inhabited

/-- Equality of the numbers: the two zeros are equal, and NaN equals nothing. -/
def Coord.meets (a b : Coord) : Bool := a.x == b.x && a.y == b.y

/-- The coordinates of one ring or line. -/
abbrev Ring := List Coord

/-- A ring is closed if it has at least four coordinates and ends where it starts. -/
def Ring.isClosed (ring : Ring) : Bool :=
  match ring.head?, ring.getLast? with
  | some first, some last => decide (4 ≤ ring.length) && first.meets last
  | _, _ => false

inductive GeometryKind where
  | point
  | multiPoint
  | lineString
  | linearRing
  | multiLineString
  | polygon
  | multiPolygon
  | geometryCollection
  deriving DecidableEq, Repr

def GeometryKind.name : GeometryKind → String
  | .point => "Point"
  | .multiPoint => "MultiPoint"
  | .lineString => "LineString"
  | .linearRing => "LinearRing"
  | .multiLineString => "MultiLineString"
  | .polygon => "Polygon"
  | .multiPolygon => "MultiPolygon"
  | .geometryCollection => "GeometryCollection"

/-- Any geometry that a document can hold. A polygon is its exterior ring, then its holes. -/
inductive Geometry where
  | point (c : Coord)
  | multiPoint (cs : List Coord)
  | lineString (line : Ring)
  | linearRing (ring : Ring)
  | multiLineString (lines : List Ring)
  | polygon (rings : List Ring)
  | multiPolygon (polygons : List (List Ring))
  | collection (children : List Geometry)
  deriving Repr, Inhabited

namespace Geometry

def kind : Geometry → GeometryKind
  | .point _ => .point
  | .multiPoint _ => .multiPoint
  | .lineString _ => .lineString
  | .linearRing _ => .linearRing
  | .multiLineString _ => .multiLineString
  | .polygon _ => .polygon
  | .multiPolygon _ => .multiPolygon
  | .collection _ => .geometryCollection

mutual

def mapCoords (f : Coord → Coord) : Geometry → Geometry
  | .point c => .point (f c)
  | .multiPoint cs => .multiPoint (cs.map f)
  | .lineString line => .lineString (line.map f)
  | .linearRing ring => .linearRing (ring.map f)
  | .multiLineString lines => .multiLineString (lines.map (·.map f))
  | .polygon rings => .polygon (rings.map (·.map f))
  | .multiPolygon polygons => .multiPolygon (polygons.map (·.map (·.map f)))
  | .collection children => .collection (mapChildren f children)

def mapChildren (f : Coord → Coord) : List Geometry → List Geometry
  | [] => []
  | g :: gs => mapCoords f g :: mapChildren f gs

end

end Geometry

/-- A geometry that bounds an area. -/
inductive PolygonGeometry where
  | polygon (rings : List Ring)
  | multiPolygon (polygons : List (List Ring))
  deriving DecidableEq, Repr, Inhabited

namespace PolygonGeometry

def toGeometry : PolygonGeometry → Geometry
  | .polygon rings => .polygon rings
  | .multiPolygon polygons => .multiPolygon polygons

def kind (g : PolygonGeometry) : GeometryKind := g.toGeometry.kind

/-- The polygon without holes that a ring bounds. -/
def ofRing (ring : Ring) : PolygonGeometry := .polygon [ring]

def polygons : PolygonGeometry → List (List Ring)
  | .polygon rings => [rings]
  | .multiPolygon polygons => polygons

def coords (g : PolygonGeometry) : List Coord := g.polygons.flatten.flatten

def mapCoords (f : Coord → Coord) : PolygonGeometry → PolygonGeometry
  | .polygon rings => .polygon (rings.map (·.map f))
  | .multiPolygon polygons => .multiPolygon (polygons.map (·.map (·.map f)))

end PolygonGeometry

end GeoDrafts
