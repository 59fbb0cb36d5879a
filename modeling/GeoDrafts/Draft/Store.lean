import GeoDrafts.Draft.Allocator
import GeoDrafts.Draft.Basic
import GeoDrafts.Geometry.Projection

/-!
The store of task drafts: the drafts in the order in which they were added, the selected one, and
an inbox for each subscriber, which gets every event from its subscription on. The store keeps the
numbers of the inboxes that it sends to, and finds out that one is closed only when it sends the
next event. An operation takes the store to its result and the store after it.
-/

namespace GeoDrafts

/-- The events that a subscriber has received. A closed inbox receives no more. -/
structure Inbox where
  isOpen : Bool
  received : Array DraftEvent
  deriving Repr

def Inbox.receive (event : DraftEvent) (inbox : Inbox) : Inbox :=
  if inbox.isOpen then { inbox with received := inbox.received.push event } else inbox

structure DraftStore where
  tasks : List TaskDraft
  selected : Option String
  /-- The inboxes that the next event is sent to. -/
  listeners : List Nat
  inboxes : List Inbox
  deriving Repr

namespace DraftStore

def empty : DraftStore := ⟨[], none, [], []⟩

def isListening (s : DraftStore) (number : Nat) : Bool := s.inboxes[number]?.any (·.isOpen)

/-- Sends an event to every listener and forgets those that are gone. -/
def emit (event : DraftEvent) (s : DraftStore) : DraftStore :=
  { s with
    listeners := s.listeners.filter s.isListening
    inboxes := s.listeners.foldl (fun inboxes number => inboxes.modify number (.receive event))
      s.inboxes }

/-- Adds a subscriber and returns its number. -/
def subscribe (s : DraftStore) : Nat × DraftStore :=
  (s.inboxes.length, { s with
    listeners := s.listeners ++ [s.inboxes.length]
    inboxes := s.inboxes ++ [⟨true, #[]⟩] })

def unsubscribe (number : Nat) (s : DraftStore) : DraftStore :=
  { s with inboxes := s.inboxes.modify number fun inbox => { inbox with isOpen := false } }

def find? (id : String) (s : DraftStore) : Option TaskDraft := s.tasks.find? fun t => t.id == id

def selectedTask? (s : DraftStore) : Option TaskDraft := s.selected.bind fun id => s.find? id

def indices (s : DraftStore) : List Nat := s.tasks.filterMap fun t => indexOfText? t.id

/-- The indices of a batch. A draft keeps the index it asks for unless it is taken, by the store or
by a draft before it; every other draft gets the next free one. -/
def assign (taken : Std.HashSet Nat) (free : Allocator) : List (Option Nat) → List Nat
  | [] => []
  | request :: rest =>
    match request.filter fun i => !taken.contains i with
    | some i => i :: assign (taken.insert i) free rest
    | none => free.allocate.1 :: assign (taken.insert free.allocate.1) free.allocate.2 rest

/-- The indices that a batch gets. Whatever index the batch asks for is not free. -/
def assignAll (s : DraftStore) (batch : List NewDraft) : List Nat :=
  let requests := batch.map fun d => d.id.bind RawId.index?
  assign (Std.HashSet.ofList s.indices)
    (Allocator.ofList (s.indices ++ requests.filterMap id)) requests

/-- A new draft as it is stored under an index. A blank name gives way to the identifier. -/
def storedAs (reproject : Bool) (d : NewDraft) (index : Nat) : TaskDraft where
  id := toString index
  name := (d.name.bind Text.nonBlank?).getD (toString index)
  geometry := if reproject then d.geometry.toProjected else d.geometry
  processPoints := d.processPoints

/-- Adds a batch and returns it as stored. With `reproject` the geometries are taken from degrees
to metres. An empty batch is no event. -/
def addTasks (batch : List NewDraft) (reproject : Bool) (s : DraftStore) :
    List TaskDraft × DraftStore :=
  if batch.isEmpty then ([], s)
  else
    let added := List.zipWith (storedAs reproject) batch (s.assignAll batch)
    (added, emit (.added added) { s with tasks := s.tasks ++ added })

/-- Removes a draft; if it was selected, nothing is selected afterwards. -/
def removeTask (id : String) (s : DraftStore) : Option TaskDraft × DraftStore :=
  match s.find? id with
  | none => (none, s)
  | some t =>
    (some t, emit (.removed id)
      { s with
        tasks := s.tasks.eraseP fun t => t.id == id
        selected := if s.selected = some id then none else s.selected })

/-- Replaces the first draft with an identifier. -/
def replaceTask (id : String) (new : TaskDraft) : List TaskDraft → List TaskDraft
  | [] => []
  | t :: ts => if t.id == id then new :: ts else t :: replaceTask id new ts

/-- Gives a draft another name, which may be blank. -/
def rename (id name : String) (s : DraftStore) : Option TaskDraft × DraftStore :=
  match s.find? id with
  | none => (none, s)
  | some t =>
    let new := { t with name := name }
    (some new, emit (.changed new) { s with tasks := replaceTask id new s.tasks })

/-- Selects a draft, or nothing if it is the selected one. An unknown identifier changes nothing.
Returns the selection. -/
def select (id : String) (s : DraftStore) : Option String × DraftStore :=
  if s.selected = some id then (none, emit (.selected none) { s with selected := none })
  else if (s.find? id).isNone then (s.selected, s)
  else (some id, emit (.selected (some id)) { s with selected := some id })

def deselect (s : DraftStore) : DraftStore := emit (.selected none) { s with selected := none }

/-- Removes all drafts, with an event for each, and returns their number. -/
def clear (s : DraftStore) : Nat × DraftStore :=
  (s.tasks.length,
    s.tasks.foldl (fun s t => emit (.removed t.id) s) { s with tasks := [], selected := none })

end DraftStore

end GeoDrafts
