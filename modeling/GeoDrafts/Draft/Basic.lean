import GeoDrafts.Draft.Index
import GeoDrafts.Geometry.Record

/-!
Task drafts: areas that wait to become tasks of a project. A new draft may ask for an identifier
and a name; a stored draft has both. Changes of the stored drafts are events.
-/

namespace GeoDrafts

/-- A draft before it is stored. -/
structure NewDraft where
  id : Option RawId
  name : Option String
  geometry : PolygonGeometry
  processPoints : Nat
  deriving DecidableEq, Repr

def NewDraft.ofGeometry (g : PolygonGeometry) : NewDraft := ⟨none, none, g, 0⟩

/-- A stored draft, with a unique decimal identifier. -/
structure TaskDraft where
  id : String
  name : String
  geometry : PolygonGeometry
  processPoints : Nat
  deriving DecidableEq, Repr

inductive DraftEvent where
  /-- A batch was added at the end. -/
  | added (drafts : List TaskDraft)
  | removed (id : String)
  /-- The draft with this identifier has new content. -/
  | changed (draft : TaskDraft)
  | selected (id : Option String)
  deriving DecidableEq, Repr

namespace TaskDraft

open Json

def toJson (d : TaskDraft) : Json :=
  .object [("id", .text d.id), ("name", .text d.name), ("geometry", d.geometry.toJson),
    ("processPoints", .number (.whole d.processPoints))]

/-- The draft that a record holds; the process points may be missing. -/
def ofDocument? (d : Document) : Option TaskDraft := do
  let fields ← d.record? ["id", "name", "geometry", "processPoints"]
  match fields with
  | [some id, some name, some geometry, points] =>
    let id ← id.text?
    let name ← name.text?
    let geometry ← PolygonGeometry.ofDocument? geometry
    let points ← (points.map (Document.natural? (Nat.pow 2 32))).getD (some 0)
    some ⟨id, name, geometry, points⟩
  | _ => none

end TaskDraft

end GeoDrafts
