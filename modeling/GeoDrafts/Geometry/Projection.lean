import GeoDrafts.Geometry.Basic

/-!
The spherical Mercator projection between degrees and metres. Latitudes beyond the square of the
projection are clamped to it.
-/

namespace GeoDrafts.Projection

def pi : Float := 3.141592653589793

/-- The radius of the sphere in metres. -/
def earthRadius : Float := 6378137.0

/-- The latitude at which the projection is as high as it is wide, in degrees. -/
def maxLatitude : Float := 85.0511287798066

def radians (degrees : Float) : Float := degrees * (pi / 180.0)

def degrees (radians : Float) : Float := radians * (180.0 / pi)

/-- Keeps a number within two bounds; NaN stays NaN. -/
def clamp (low high x : Float) : Float := if x < low then low else if high < x then high else x

/-- Degrees to metres. -/
def project (c : Coord) : Coord where
  x := earthRadius * radians c.x
  y :=
    let latitude := clamp (-maxLatitude) maxLatitude c.y
    earthRadius * (pi / 4.0 + radians latitude / 2.0).tan.log

/-- Metres to degrees. -/
def unproject (c : Coord) : Coord where
  x := degrees (c.x / earthRadius)
  y := degrees (2.0 * (c.y / earthRadius).exp.atan - pi / 2.0)

end GeoDrafts.Projection

namespace GeoDrafts.PolygonGeometry

/-- The geometry in metres of one in degrees. -/
def toProjected (g : PolygonGeometry) : PolygonGeometry := g.mapCoords Projection.project

/-- The geometry in degrees of one in metres. -/
def toGeographic (g : PolygonGeometry) : PolygonGeometry := g.mapCoords Projection.unproject

end GeoDrafts.PolygonGeometry
