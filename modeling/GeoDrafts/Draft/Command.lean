import GeoDrafts.Draft.Intake

/-!
Commands to the store of drafts, and their replies. A session is the run of a list of commands.
-/

namespace GeoDrafts

inductive Command where
  | addTasks (batch : List NewDraft) (reproject : Bool)
  | addPayload (payload : ByteArray)
  /-- What any way of loading a payload returned. -/
  | addFetched (fetched : Except FetchError ByteArray)
  | addRemote (url : String) (answer : Answer)
  | addDrawn (geometry : PolygonGeometry)
  | addProject (project : ProjectExport)
  | addExport (text : String)
  | subdivide (id shapeName : String) (size : Float)
  | remove (id : String)
  | rename (id name : String)
  | select (id : String)
  | deselect
  | clear
  | subscribe
  | unsubscribe (number : Nat)

inductive Reply where
  | drafts (added : List TaskDraft)
  | draft (draft : Option TaskDraft)
  | selection (id : Option String)
  | removed (count : Nat)
  | subscriber (number : Nat)
  | done
  deriving Repr

namespace Command

def run (s : DraftStore) : Command → Except DraftError Reply × DraftStore
  | .addTasks batch reproject =>
    let (added, s) := s.addTasks batch reproject
    (.ok (.drafts added), s)
  | .addPayload payload => (s.addPayload payload).map (·.map .drafts) id
  | .addFetched fetched => (s.addFetched fetched).map (·.map .drafts) id
  | .addRemote url answer => (s.addFetched (fetchFrom answer url)).map (·.map .drafts) id
  | .addDrawn geometry => (s.addDrawn geometry).map (·.map fun t => .draft (some t)) id
  | .addProject project => (s.addProject project).map (·.map .drafts) id
  | .addExport text => (s.addExport text).map (·.map .drafts) id
  | .subdivide id shapeName size =>
    match GridShape.ofName shapeName with
    | .error e => (.error (.invalidBatchInput e), s)
    | .ok shape => (s.subdivide id shape size).map (·.map .drafts) fun s => s
  | .remove id => (s.removeTask id).map (fun t => .ok (.draft t)) fun s => s
  | .rename id name => (s.rename id name).map (fun t => .ok (.draft t)) fun s => s
  | .select id => (s.select id).map (fun selected => .ok (.selection selected)) fun s => s
  | .deselect => (.ok .done, s.deselect)
  | .clear => s.clear.map (fun count => .ok (.removed count)) id
  | .subscribe => s.subscribe.map (fun number => .ok (.subscriber number)) id
  | .unsubscribe number => (.ok .done, s.unsubscribe number)

/-- The store after a list of commands, whether they succeed or not. -/
def runAll (s : DraftStore) (commands : List Command) : DraftStore :=
  commands.foldl (fun s c => (run s c).2) s

end Command

end GeoDrafts
