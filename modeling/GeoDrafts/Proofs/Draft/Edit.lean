import GeoDrafts.Draft.Command

/-!
The changes that commands are made of. Whatever a command does to a store, it does by at most two
edits: a command that fails makes none, dividing a draft removes it and adds its cells, and every
other command makes one. Each edit has lemmas for the parts of the store.
-/

namespace GeoDrafts

namespace DraftStore

def emitAll (events : List DraftEvent) (s : DraftStore) : DraftStore :=
  events.foldl (fun s event => emit event s) s

@[simp]
theorem tasks_emitAll (events : List DraftEvent) (s : DraftStore) :
    (emitAll events s).tasks = s.tasks := by
  induction events generalizing s with
  | nil => rfl
  | cons event events ih => exact ih (emit event s)

@[simp]
theorem selected_emitAll (events : List DraftEvent) (s : DraftStore) :
    (emitAll events s).selected = s.selected := by
  induction events generalizing s with
  | nil => rfl
  | cons event events ih => exact ih (emit event s)

/-! ## What the operations do -/

theorem added_addTasks (s : DraftStore) (batch : List NewDraft) (reproject : Bool) :
    (s.addTasks batch reproject).1 =
      List.zipWith (storedAs reproject) batch (s.assignAll batch) := by
  cases batch <;> rfl

@[simp]
theorem tasks_addTasks (s : DraftStore) (batch : List NewDraft) (reproject : Bool) :
    (s.addTasks batch reproject).2.tasks = s.tasks ++ (s.addTasks batch reproject).1 := by
  cases batch with
  | nil => exact (List.append_nil _).symm
  | cons d batch => rfl

@[simp]
theorem selected_addTasks (s : DraftStore) (batch : List NewDraft) (reproject : Bool) :
    (s.addTasks batch reproject).2.selected = s.selected := by
  cases batch <;> rfl

theorem removeTask_of_find?_eq_none {s : DraftStore} {id : String} (h : s.find? id = none) :
    s.removeTask id = (none, s) := by
  simp only [removeTask, h]

theorem rename_of_find?_eq_none {s : DraftStore} {id : String} (h : s.find? id = none)
    (name : String) : s.rename id name = (none, s) := by
  simp only [rename, h]

@[simp]
theorem tasks_removeTask (s : DraftStore) (id : String) :
    (s.removeTask id).2.tasks = s.tasks.eraseP fun t => t.id == id := by
  cases h : s.find? id with
  | none =>
    rw [removeTask_of_find?_eq_none h, List.eraseP_of_forall_not]
    exact List.find?_eq_none.mp h
  | some t =>
    simp only [removeTask, h]
    rfl

theorem selected_removeTask {s : DraftStore} {id : String} {t : TaskDraft}
    (h : s.find? id = some t) :
    (s.removeTask id).2.selected = if s.selected = some id then none else s.selected := by
  simp only [removeTask, h]
  rfl

theorem tasks_rename {s : DraftStore} {id : String} {t : TaskDraft} (h : s.find? id = some t)
    (name : String) :
    (s.rename id name).2.tasks = replaceTask id { t with name := name } s.tasks := by
  simp only [rename, h]
  rfl

@[simp]
theorem selected_rename (s : DraftStore) (id name : String) :
    (s.rename id name).2.selected = s.selected := by
  cases h : s.find? id with
  | none => rw [rename_of_find?_eq_none h]
  | some t =>
    simp only [rename, h]
    rfl

@[simp]
theorem tasks_select (s : DraftStore) (id : String) : (s.select id).2.tasks = s.tasks := by
  unfold select
  split
  · rfl
  · split <;> rfl

theorem selected_select (s : DraftStore) (id : String) :
    (s.select id).2.selected =
      if s.selected = some id then none else if (s.find? id).isSome then some id
      else s.selected := by
  unfold select
  split
  · rfl
  · cases s.find? id <;> rfl

theorem clear_eq (s : DraftStore) :
    s.clear.2 = emitAll (s.tasks.map fun t => .removed t.id)
      { s with tasks := [], selected := none } := by
  simp only [clear, emitAll, List.foldl_map]

@[simp]
theorem tasks_clear (s : DraftStore) : s.clear.2.tasks = [] := by
  rw [clear_eq, tasks_emitAll]

@[simp]
theorem selected_clear (s : DraftStore) : s.clear.2.selected = none := by
  rw [clear_eq, selected_emitAll]

end DraftStore

/-! ## Edits -/

/-- A single change of a store. -/
inductive Edit where
  | add (batch : List NewDraft) (reproject : Bool)
  | remove (id : String)
  | rename (id name : String)
  | select (id : String)
  | deselect
  | clear
  | subscribe
  | unsubscribe (number : Nat)

def Edit.apply (s : DraftStore) : Edit → DraftStore
  | .add batch reproject => (s.addTasks batch reproject).2
  | .remove id => (s.removeTask id).2
  | .rename id name => (s.rename id name).2
  | .select id => (s.select id).2
  | .deselect => s.deselect
  | .clear => s.clear.2
  | .subscribe => s.subscribe.2
  | .unsubscribe number => s.unsubscribe number

def DraftStore.applyAll (s : DraftStore) (edits : List Edit) : DraftStore :=
  edits.foldl Edit.apply s

/-- The command that makes an edit and no other. -/
def Edit.command : Edit → Command
  | .add batch reproject => .addTasks batch reproject
  | .remove id => .remove id
  | .rename id name => .rename id name
  | .select id => .select id
  | .deselect => .deselect
  | .clear => .clear
  | .subscribe => .subscribe
  | .unsubscribe number => .unsubscribe number

namespace Command

/-- Adding a batch from outside, which must not be empty. -/
def addition : List NewDraft → List Edit
  | [] => []
  | batch => [.add batch true]

def payloadEdits (payload : ByteArray) : List Edit :=
  match detect? PayloadFormat.all payload with
  | none => []
  | some (_, features) => addition ((Feature.normalizeAll features).map NewDraft.ofFeature)

def fetchEdits : Except FetchError ByteArray → List Edit
  | .error _ => []
  | .ok payload => payloadEdits payload

/-- Removing a draft and adding its cells. -/
def divisionEdits (s : DraftStore) (id : String) (shape : GridShape) (size : Float) : List Edit :=
  match s.find? id with
  | none => []
  | some t =>
    match Grid.cells t.geometry shape size with
    | .error _ | .ok [] => []
    | .ok cells => [.remove id, .add (cells.map NewDraft.ofGeometry) false]

def exportEdits (text : String) : List Edit :=
  match ProjectExport.read? text with
  | none => []
  | some p => addition p.drafts

def edits (s : DraftStore) : Command → List Edit
  | .addTasks batch reproject => [.add batch reproject]
  | .addPayload payload => payloadEdits payload
  | .addFetched fetched => fetchEdits fetched
  | .addRemote url answer => fetchEdits (fetchFrom answer url)
  | .addDrawn geometry => [.add [.ofGeometry geometry] false]
  | .addProject project => addition project.drafts
  | .addExport text => exportEdits text
  | .subdivide id shapeName size =>
    match GridShape.ofName shapeName with
    | .error _ => []
    | .ok shape => divisionEdits s id shape size
  | .remove id => [.remove id]
  | .rename id name => [.rename id name]
  | .select id => [.select id]
  | .deselect => [.deselect]
  | .clear => [.clear]
  | .subscribe => [.subscribe]
  | .unsubscribe number => [.unsubscribe number]

private theorem addPayload_edits (s : DraftStore) (payload : ByteArray) :
    (s.addPayload payload).2 = s.applyAll (payloadEdits payload) := by
  unfold DraftStore.addPayload payloadEdits
  cases detect? PayloadFormat.all payload with
  | none => rfl
  | some found =>
    dsimp only
    cases Feature.normalizeAll found.2 <;> rfl

private theorem addFetched_edits (s : DraftStore) (fetched : Except FetchError ByteArray) :
    (s.addFetched fetched).2 = s.applyAll (fetchEdits fetched) := by
  cases fetched with
  | error e => rfl
  | ok payload => exact addPayload_edits s payload

private theorem addDrawn_edits (s : DraftStore) (g : PolygonGeometry) :
    (s.addDrawn g).2 = s.applyAll [.add [.ofGeometry g] false] := by
  unfold DraftStore.addDrawn
  dsimp only
  split <;> rfl

private theorem addProject_edits (s : DraftStore) (p : ProjectExport) :
    (s.addProject p).2 = s.applyAll (addition p.drafts) := by
  unfold DraftStore.addProject
  cases p.drafts <;> rfl

private theorem addExport_edits (s : DraftStore) (text : String) :
    (s.addExport text).2 = s.applyAll (exportEdits text) := by
  unfold DraftStore.addExport exportEdits
  cases ProjectExport.read? text with
  | none => rfl
  | some p => exact addProject_edits s p

private theorem subdivide_edits (s : DraftStore) (id : String) (shape : GridShape) (size : Float) :
    (s.subdivide id shape size).2 = s.applyAll (divisionEdits s id shape size) := by
  unfold DraftStore.subdivide divisionEdits
  cases s.find? id with
  | none => rfl
  | some t =>
    dsimp only
    cases Grid.cells t.geometry shape size with
    | error e => rfl
    | ok cells => cases cells <;> rfl

/-- **A command does what its edits do.** -/
theorem run_eq_applyAll (s : DraftStore) (c : Command) : (c.run s).2 = s.applyAll (c.edits s) := by
  cases c with
  | addPayload payload => simp only [run, edits, Prod.map_snd, id_eq, addPayload_edits]
  | addFetched fetched => simp only [run, edits, Prod.map_snd, id_eq, addFetched_edits]
  | addRemote url answer => simp only [run, edits, Prod.map_snd, id_eq, addFetched_edits]
  | addDrawn geometry => simp only [run, edits, Prod.map_snd, id_eq, addDrawn_edits]
  | addProject project => simp only [run, edits, Prod.map_snd, id_eq, addProject_edits]
  | addExport text => simp only [run, edits, Prod.map_snd, id_eq, addExport_edits]
  | subdivide id shapeName size =>
    simp only [run, edits]
    cases GridShape.ofName shapeName with
    | error e => rfl
    | ok shape => exact subdivide_edits s id shape size
  | _ => rfl

@[simp]
theorem runAll_nil (s : DraftStore) : runAll s [] = s := rfl

@[simp]
theorem runAll_cons (s : DraftStore) (c : Command) (commands : List Command) :
    runAll s (c :: commands) = runAll (c.run s).2 commands := rfl

theorem runAll_append (s : DraftStore) (before after : List Command) :
    runAll s (before ++ after) = runAll (runAll s before) after := List.foldl_append

end Command

end GeoDrafts
