import GeoDrafts.Feature.Basic

/-!
The normal form of a feature: the areas that it bounds, each a feature of its own with the same
properties. Polygons are kept if they have a coordinate, closed lines and rings become polygons
without holes, collections are taken apart in order, and all else is dropped.
-/

namespace GeoDrafts

/-- A geometry that bounds an area, unless it has no coordinates. -/
def PolygonGeometry.nonEmpty? (g : PolygonGeometry) : Option PolygonGeometry :=
  if g.coords.isEmpty then none else some g

mutual

def Geometry.areas : Geometry → List PolygonGeometry
  | .polygon rings => (PolygonGeometry.polygon rings).nonEmpty?.toList
  | .multiPolygon polygons => (PolygonGeometry.multiPolygon polygons).nonEmpty?.toList
  | .lineString line => if Ring.isClosed line then [.ofRing line] else []
  | .linearRing ring => [.ofRing ring]
  | .multiLineString lines => (lines.filter Ring.isClosed).map .ofRing
  | .point _ => []
  | .multiPoint _ => []
  | .collection children => Geometry.areasOfAll children

def Geometry.areasOfAll : List Geometry → List PolygonGeometry
  | [] => []
  | g :: gs => Geometry.areas g ++ Geometry.areasOfAll gs

end

/-- The polygon features that a feature stands for. -/
def Feature.normalize (feature : Feature) : List PolygonFeature :=
  match feature.geometry with
  | none => []
  | some g => g.areas.map fun area => ⟨area, feature.properties⟩

def Feature.normalizeAll (features : List Feature) : List PolygonFeature :=
  features.flatMap Feature.normalize

end GeoDrafts
