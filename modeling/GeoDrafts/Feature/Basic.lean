import GeoDrafts.Geometry.Basic
import GeoDrafts.Json.Writer

/-!
Features: a geometry with an open bag of properties.
-/

namespace GeoDrafts

/-- A feature as a document gives it, perhaps without a geometry. -/
structure Feature where
  geometry : Option Geometry
  properties : Json.Members
  deriving Repr, Inhabited

/-- A feature whose geometry bounds an area. -/
structure PolygonFeature where
  geometry : PolygonGeometry
  properties : Json.Members
  deriving Repr, Inhabited

/-- The text of a property that is a text, a number or a truth value. -/
def PolygonFeature.propertyText? (feature : PolygonFeature) (key : String) : Option String :=
  match feature.properties.find? key with
  | some (.text s) => some s
  | some (.number n) => some n.write
  | some (.bool b) => some (toString b)
  | _ => none

end GeoDrafts
