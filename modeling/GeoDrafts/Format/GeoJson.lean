import GeoDrafts.Feature.Basic
import GeoDrafts.Format.Position
import GeoDrafts.Json.Reader

/-!
GeoJSON: a collection of features, a single feature, or a bare geometry. Rings of their own are
no GeoJSON geometry.
-/

namespace GeoDrafts.GeoJson

def typeOf (v : Json) : Except DecodeError String :=
  match v with
  | .object members =>
    match Json.Members.find? "type" members with
    | some (.text kind) => .ok kind
    | _ => .error (.document .missingType)
  | _ => .error (.document .notObject)

/-- A geometry that is no collection, from its type and its coordinates. -/
def readSimple (kind : String) (v : Json) : Except DecodeError Geometry :=
  match kind with
  | "Point" => (Position.coord v).map .point
  | "MultiPoint" => (Position.line v).map .multiPoint
  | "LineString" => (Position.line v).map .lineString
  | "MultiLineString" => (Position.lines v).map .multiLineString
  | "Polygon" => (Position.lines v).map .polygon
  | "MultiPolygon" => (Position.polygons v).map .multiPolygon
  | _ => .error (.geometry (.unsupportedKind kind))

theorem sizeOf_find?_lt {members : Json.Members} {key : String} {v : Json}
    (h : members.find? key = some v) : sizeOf v < sizeOf members := by
  obtain ⟨m, hm, rfl⟩ := Option.map_eq_some_iff.1 h
  have hlt := List.sizeOf_lt_of_mem (List.mem_of_find?_eq_some hm)
  have : sizeOf m = 1 + sizeOf m.1 + sizeOf m.2 := by cases m; rfl
  omega

theorem sizeOf_member?_lt {v w : Json} {key : String} (h : v.member? key = some w) :
    sizeOf w < sizeOf v := by
  cases v with
  | object members =>
    have := sizeOf_find?_lt h
    simp only [Json.object.sizeOf_spec]
    omega
  | _ => simp [Json.member?] at h

mutual

def readGeometry (v : Json) : Except DecodeError Geometry :=
  match typeOf v with
  | .error e => .error e
  | .ok kind =>
    if kind = "GeometryCollection" then
      match _h : v.member? "geometries" with
      | none => .error (.geometry .missingGeometries)
      | some (.array children) => (readGeometries children).map .collection
      | some _ => .error (.geometry .notArray)
    else
      match v.member? "coordinates" with
      | none => .error (.geometry (.missingCoordinates kind))
      | some coordinates => readSimple kind coordinates
termination_by sizeOf v
decreasing_by
  have := sizeOf_member?_lt _h
  simp only [Json.array.sizeOf_spec] at this
  omega

def readGeometries (vs : List Json) : Except DecodeError (List Geometry) :=
  match vs with
  | [] => .ok []
  | v :: vs => do
    let g ← readGeometry v
    let gs ← readGeometries vs
    .ok (g :: gs)
termination_by sizeOf vs

end

/-- The feature that an object holds. A missing geometry and a null one are no geometry; an
identifier beside the properties becomes a property, unless there is one of that name. -/
def readFeature (v : Json) : Except DecodeError Feature := do
  let kind ← typeOf v
  if kind ≠ "Feature" then .error (.document .notFeature)
  else
    let geometry ←
      match v.member? "geometry" with
      | none | some .null => .ok none
      | some g => (readGeometry g).map some
    let properties :=
      match v.member? "properties" with
      | some (.object members) => members
      | _ => []
    .ok ⟨geometry,
      match v.member? "id" with
      | none => properties
      | some id => Json.Members.insertNew "id" id properties⟩

def decodeValue (v : Json) : Except DecodeError (List Feature) := do
  let kind ← typeOf v
  if kind = "FeatureCollection" then
    match v.member? "features" with
    | none => .error (.document .missingFeatures)
    | some features => do Position.each readFeature (← Position.items features)
  else if kind = "Feature" then (readFeature v).map ([·])
  else (readGeometry v).map fun g => [⟨some g, []⟩]

def decode (text : String) : Except DecodeError (List Feature) :=
  match Json.read? text with
  | none => .error .json
  | some v => decodeValue v

end GeoDrafts.GeoJson
