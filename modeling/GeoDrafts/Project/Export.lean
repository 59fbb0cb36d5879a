import GeoDrafts.Feature.Normal
import GeoDrafts.Feature.Record
import GeoDrafts.Format.GeoJson

/-!
Project exports: documents that list the tasks of an existing project. The geometry of a task is
GeoJSON, either as a value or as a text that holds one.
-/

namespace GeoDrafts

open Json

structure TaskExport where
  name : String
  processPoints : Nat
  maxProcessPoints : Nat
  geometry : Json
  deriving Repr

structure ProjectExport where
  name : String
  description : String
  tasks : List TaskExport
  deriving Repr

namespace TaskExport

/-- The areas of a task. A geometry that cannot be read has none. -/
def polygonFeatures (t : TaskExport) : List PolygonFeature :=
  let decoded :=
    match t.geometry with
    | .text s => GeoJson.decode s
    | v => GeoJson.decodeValue v
  match decoded with
  | .ok features => Feature.normalizeAll features
  | .error _ => []

def toJson (t : TaskExport) : Json :=
  .object [("name", .text t.name), ("processPoints", .number (.whole t.processPoints)),
    ("maxProcessPoints", .number (.whole t.maxProcessPoints)), ("geometry", t.geometry)]

/-- The task that a record holds, of which only the geometry is needed. The record stands with
`room` levels left for the nesting of the geometry. -/
def ofDocument? (room : Nat) (d : Document) : Option TaskExport := do
  let fields ← d.record? ["name", "processPoints", "maxProcessPoints", "geometry"]
  match fields with
  | [name, points, maxPoints, some geometry] =>
    let name ← (name.map Document.text?).getD (some "")
    let points ← (points.map (Document.natural? (Nat.pow 2 32))).getD (some 0)
    let maxPoints ← (maxPoints.map (Document.natural? (Nat.pow 2 32))).getD (some 0)
    let geometry ← geometry.value? room
    some ⟨name, points, maxPoints, geometry⟩
  | _ => none

end TaskExport

namespace ProjectExport

def toJson (p : ProjectExport) : Json :=
  .object [("name", .text p.name), ("description", .text p.description),
    ("tasks", .array (p.tasks.map TaskExport.toJson))]

/-- The project that a record holds, of which only the name is needed. -/
def ofDocument? (d : Document) : Option ProjectExport := do
  let fields ← d.record? ["name", "description", "tasks"]
  match fields with
  | [some name, description, tasks] =>
    let name ← name.text?
    let description ← (description.map Document.text?).getD (some "")
    let tasks ←
      (tasks.map (Document.list? (TaskExport.ofDocument? (maxDepth - 3)))).getD (some [])
    some ⟨name, description, tasks⟩
  | _ => none

def read? (text : String) : Option ProjectExport := (Document.read? text).bind ofDocument?

end ProjectExport

end GeoDrafts
