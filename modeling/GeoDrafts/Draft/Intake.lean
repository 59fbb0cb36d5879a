import GeoDrafts.Draft.Error
import GeoDrafts.Draft.Store
import GeoDrafts.Format.Payload
import GeoDrafts.Grid.Tiling
import GeoDrafts.Project.Export

/-!
Where drafts come from: payloads, files at web addresses, drawn shapes, project exports, and the
division of a draft into grid cells. Whatever can fail is decided before the store changes.
-/

namespace GeoDrafts

/-- A draft for a polygon feature. Its properties can ask for an identifier and a name. -/
def NewDraft.ofFeature (f : PolygonFeature) : NewDraft where
  id := (f.properties.find? "id").bind RawId.ofJson?
  name :=
    match f.properties.find? "name" with
    | some (.text s) => some s
    | some (.number n) => some n.write
    | _ => none
  geometry := f.geometry
  processPoints := 0

/-- The drafts for the areas of an exported project, task by task. -/
def ProjectExport.drafts (p : ProjectExport) : List NewDraft :=
  p.tasks.flatMap fun t =>
    t.polygonFeatures.map fun f => ⟨none, some t.name, f.geometry, t.processPoints⟩

namespace DraftStore

/-- Adds the areas of a payload of any format, which are in degrees. -/
def addPayload (payload : ByteArray) (s : DraftStore) :
    Except DraftError (List TaskDraft) × DraftStore :=
  match detect? PayloadFormat.all payload with
  | none => (.error .unrecognizedPayload, s)
  | some (_, features) =>
    match Feature.normalizeAll features with
    | [] => (.error .noUsableGeometry, s)
    | areas =>
      let (added, s) := s.addTasks (areas.map NewDraft.ofFeature) true
      (.ok added, s)

/-- Adds the areas of a payload that was fetched, or did not come. -/
def addFetched (fetched : Except FetchError ByteArray) (s : DraftStore) :
    Except DraftError (List TaskDraft) × DraftStore :=
  match fetched with
  | .error e => (.error (.fetch e), s)
  | .ok payload => s.addPayload payload

/-- Adds a drawn shape, which is in metres. -/
def addDrawn (g : PolygonGeometry) (s : DraftStore) :
    Except DraftError TaskDraft × DraftStore :=
  let (added, s) := s.addTasks [NewDraft.ofGeometry g] false
  match added.getLast? with
  | some t => (.ok t, s)
  | none => (.error .noUsableGeometry, s)

/-- Adds the areas of an exported project, which are in degrees. -/
def addProject (p : ProjectExport) (s : DraftStore) :
    Except DraftError (List TaskDraft) × DraftStore :=
  match p.drafts with
  | [] => (.error .noUsableGeometry, s)
  | batch =>
    let (added, s) := s.addTasks batch true
    (.ok added, s)

def addExport (text : String) (s : DraftStore) :
    Except DraftError (List TaskDraft) × DraftStore :=
  match ProjectExport.read? text with
  | none => (.error .importFailed, s)
  | some p => s.addProject p

/-- Replaces a draft by the grid cells that touch it. -/
def subdivide (id : String) (shape : GridShape) (size : Float) (s : DraftStore) :
    Except DraftError (List TaskDraft) × DraftStore :=
  match s.find? id with
  | none => (.error (.notFound id), s)
  | some t =>
    match Grid.cells t.geometry shape size with
    | .error e => (.error (.invalidBatchInput e), s)
    | .ok [] => (.error .noUsableGeometry, s)
    | .ok cells =>
      let (_, s) := s.removeTask id
      let (added, s) := s.addTasks (cells.map NewDraft.ofGeometry) false
      (.ok added, s)

/-- Divides the drafts with the given identifiers, one after another, and returns the number of
cells. The first failure ends the work and leaves what was done. -/
def subdivideEach (shape : GridShape) (size : Float) :
    List String → DraftStore → Except DraftError Nat × DraftStore
  | [], s => (.ok 0, s)
  | id :: ids, s =>
    match s.subdivide id shape size with
    | (.error e, s) => (.error e, s)
    | (.ok cells, s) =>
      let (count, s) := subdivideEach shape size ids s
      (count.map (cells.length + ·), s)

/-- Divides one draft, or all that are there, and returns the number of cells. -/
def subdivideAll (shape : GridShape) (size : Float) (only : Option String) (s : DraftStore) :
    Except DraftError Nat × DraftStore :=
  match only with
  | some id => subdivideEach shape size [id] s
  | none => subdivideEach shape size (s.tasks.map (·.id)) s

end DraftStore

end GeoDrafts
