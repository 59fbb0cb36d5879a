import GeoDrafts.Feature.Basic
import GeoDrafts.Geometry.Record

/-!
Polygon features as JSON records.
-/

namespace GeoDrafts.PolygonFeature

open Json

def toJson (feature : PolygonFeature) : Json :=
  .object [("geometry", feature.geometry.toJson), ("properties", .object feature.properties)]

/-- The feature that a record holds; the properties may be missing. -/
def ofDocument? (d : Document) : Option PolygonFeature := do
  let fields ← d.record? ["geometry", "properties"]
  match fields with
  | [some geometry, properties] =>
    let geometry ← PolygonGeometry.ofDocument? geometry
    match ← (properties.getD (.object [])).value? (maxDepth - 1) with
    | .object members => some ⟨geometry, members⟩
    | _ => none
  | _ => none

end GeoDrafts.PolygonFeature
