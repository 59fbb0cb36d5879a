import GeoDrafts.Proofs.Draft.Reachable

/-!
What subscribers get to know. The events that an edit sends, applied to the drafts and the
selection before it, give those after it. An open inbox is a listener exactly once, so it receives
every event exactly once, whichever other inboxes are closed and forgotten.
-/

namespace GeoDrafts

/-- What a subscriber knows of a store. -/
structure View where
  tasks : List TaskDraft
  selected : Option String

namespace View

/-- What a subscriber knows after an event. -/
def replay (v : View) : DraftEvent → View
  | .added batch => { v with tasks := v.tasks ++ batch }
  | .removed id =>
    { tasks := v.tasks.eraseP fun t => t.id == id
      selected := if v.selected = some id then none else v.selected }
  | .changed d => { v with tasks := v.tasks.set (v.tasks.findIdx fun t => t.id == d.id) d }
  | .selected id => { v with selected := id }

def replayAll (v : View) (events : List DraftEvent) : View := events.foldl replay v

theorem replayAll_append (v : View) (first second : List DraftEvent) :
    v.replayAll (first ++ second) = (v.replayAll first).replayAll second := List.foldl_append

/-- Removing all drafts one after another also clears a selection of one of them. -/
theorem replayAll_removed (tasks : List TaskDraft) (selected : Option String)
    (h : ∀ id, selected = some id → id ∈ tasks.map (·.id)) :
    (View.mk tasks selected).replayAll (tasks.map fun t => .removed t.id) = ⟨[], none⟩ := by
  induction tasks generalizing selected with
  | nil =>
    cases selected with
    | none => rfl
    | some id => exact absurd (h id rfl) List.not_mem_nil
  | cons t tasks ih =>
    have hhead : (View.mk (t :: tasks) selected).replay (.removed t.id) =
        ⟨tasks, if selected = some t.id then none else selected⟩ := by
      simp only [replay, List.eraseP_cons_of_pos, beq_self_eq_true]
    rw [List.map_cons, replayAll, List.foldl_cons, hhead]
    apply ih
    intro id hid
    split at hid
    · cases hid
    · rename_i hne
      rcases List.mem_cons.mp (h id hid) with rfl | hmem
      · exact absurd hid hne
      · exact hmem

end View

namespace DraftStore

def view (s : DraftStore) : View := ⟨s.tasks, s.selected⟩

theorem replaceTask_eq_set (new : TaskDraft) (tasks : List TaskDraft) :
    replaceTask new.id new tasks = tasks.set (tasks.findIdx fun t => t.id == new.id) new := by
  induction tasks with
  | nil => rfl
  | cons t tasks ih =>
    cases h : t.id == new.id <;> simp [replaceTask, List.findIdx_cons, h, ih]

end DraftStore

/-! ## The events of an edit -/

namespace Edit

/-- The events that an edit sends. What changes nothing sends none, except that selecting nothing
is always an event. -/
def events (s : DraftStore) : Edit → List DraftEvent
  | .add batch reproject =>
    if batch = [] then [] else [.added (s.addTasks batch reproject).1]
  | .remove id => if id ∈ s.ids then [.removed id] else []
  | .rename id name => (s.find? id).toList.map fun t => .changed { t with name := name }
  | .select id =>
    if s.selected = some id then [.selected none]
    else if id ∈ s.ids then [.selected (some id)] else []
  | .deselect => [.selected none]
  | .clear => s.tasks.map fun t => .removed t.id
  | .subscribe | .unsubscribe _ => []

/-- Replaying the events of an edit gives what the edit leaves. -/
theorem view_apply {s : DraftStore} (h : s.SelectionStored) (e : Edit) :
    s.view.replayAll (e.events s) = (e.apply s).view := by
  cases e with
  | add batch reproject =>
    cases batch with
    | nil => rfl
    | cons d batch => rfl
  | remove id =>
    by_cases hid : id ∈ s.ids
    · obtain ⟨t, ht⟩ := DraftStore.exists_find?_eq hid
      rw [events, if_pos hid, DraftStore.view, DraftStore.view, apply,
        DraftStore.tasks_removeTask, DraftStore.selected_removeTask ht]
      rfl
    · have hnone := DraftStore.find?_eq_none_iff.mpr hid
      rw [events, if_neg hid, apply, DraftStore.removeTask_of_find?_eq_none hnone]
      rfl
  | rename id name =>
    cases hfind : s.find? id with
    | none =>
      rw [events, hfind, apply, DraftStore.rename_of_find?_eq_none hfind]
      rfl
    | some t =>
      obtain ⟨_, rfl⟩ := DraftStore.mem_ids_of_find? hfind
      rw [events, hfind, DraftStore.view, DraftStore.view, apply, DraftStore.tasks_rename hfind,
        DraftStore.selected_rename]
      exact congrArg (View.mk · s.selected)
        (DraftStore.replaceTask_eq_set { t with name := name } s.tasks).symm
  | select id =>
    rw [DraftStore.view, DraftStore.view, apply, DraftStore.tasks_select,
      DraftStore.selected_select, events]
    simp only [DraftStore.find?_isSome_iff]
    split
    · rfl
    · split <;> rfl
  | deselect => rfl
  | clear =>
    rw [DraftStore.view, DraftStore.view, apply, DraftStore.tasks_clear,
      DraftStore.selected_clear]
    exact View.replayAll_removed s.tasks s.selected h
  | subscribe => rfl
  | unsubscribe number => rfl

end Edit

/-! ## Listeners -/

namespace DraftStore

/-- Every open inbox is a listener, and no inbox is one twice. -/
structure Connected (s : DraftStore) : Prop where
  nodup : s.listeners.Nodup
  lt_length : ∀ n ∈ s.listeners, n < s.inboxes.length
  mem_listeners : ∀ n, s.isListening n → n ∈ s.listeners

private theorem getElem?_foldl_modify {α : Type} (f : α → α) {numbers : List Nat}
    (h : numbers.Nodup) (l : List α) (n : Nat) :
    (numbers.foldl (fun l m => l.modify m f) l)[n]? =
      if n ∈ numbers then l[n]?.map f else l[n]? := by
  induction numbers generalizing l with
  | nil => simp
  | cons m numbers ih =>
    obtain ⟨hm, hrest⟩ := List.nodup_cons.mp h
    rw [List.foldl_cons, ih hrest, List.getElem?_modify]
    by_cases hmn : m = n
    · subst hmn
      simp [hm]
    · have hnm : n ≠ m := fun heq => hmn heq.symm
      simp [hmn, hnm]

/-- An event gets into every inbox, and into none twice. -/
theorem inboxes_emit {s : DraftStore} (h : s.Connected) (event : DraftEvent) :
    (s.emit event).inboxes = s.inboxes.map (.receive event) := by
  apply List.ext_getElem?
  intro n
  rw [emit, getElem?_foldl_modify _ h.nodup, List.getElem?_map]
  split
  · rfl
  · rename_i hn
    cases hinbox : s.inboxes[n]? with
    | none => rfl
    | some inbox =>
      have hclosed : ¬ inbox.isOpen := fun hopen =>
        hn (h.mem_listeners n (by simp [isListening, hinbox, hopen]))
      simp [Inbox.receive, hclosed]

theorem isOpen_receive (event : DraftEvent) (inbox : Inbox) :
    (inbox.receive event).isOpen = inbox.isOpen := by
  unfold Inbox.receive
  split <;> rfl

theorem isListening_emit {s : DraftStore} (h : s.Connected) (event : DraftEvent) (n : Nat) :
    (s.emit event).isListening n = s.isListening n := by
  rw [isListening, isListening, inboxes_emit h, List.getElem?_map]
  cases s.inboxes[n]? with
  | none => rfl
  | some inbox => exact isOpen_receive event inbox

theorem Connected.emit {s : DraftStore} (h : s.Connected) (event : DraftEvent) :
    (s.emit event).Connected := by
  refine ⟨h.nodup.filter _, ?_, ?_⟩
  · intro n hn
    rw [inboxes_emit h, List.length_map]
    exact h.lt_length n (List.mem_filter.mp hn).1
  · intro n hn
    rw [isListening_emit h] at hn
    exact List.mem_filter.mpr ⟨h.mem_listeners n hn, hn⟩

theorem Connected.emitAll {s : DraftStore} (h : s.Connected) (events : List DraftEvent) :
    (s.emitAll events).Connected := by
  induction events generalizing s with
  | nil => exact h
  | cons event events ih => exact ih (h.emit event)

/-- Whether inboxes are listeners has nothing to do with the drafts and the selection. -/
theorem Connected.of_view {s : DraftStore} (h : s.Connected) (v : View) :
    { s with tasks := v.tasks, selected := v.selected : DraftStore }.Connected :=
  ⟨h.nodup, h.lt_length, h.mem_listeners⟩

theorem Connected.subscribe {s : DraftStore} (h : s.Connected) : s.subscribe.2.Connected := by
  refine ⟨?_, ?_, ?_⟩
  · apply h.nodup.append (List.nodup_singleton _)
    rw [List.disjoint_singleton]
    exact fun hmem => Nat.lt_irrefl _ (h.lt_length _ hmem)
  · intro n hn
    change n < (s.inboxes ++ _).length
    rw [List.length_append, List.length_singleton]
    rcases List.mem_append.mp hn with hold | hnew
    · exact Nat.lt_succ_of_lt (h.lt_length n hold)
    · rw [List.mem_singleton.mp hnew]
      exact Nat.lt_succ_self _
  · intro n hn
    apply List.mem_append.mpr
    by_cases hold : n < s.inboxes.length
    · left
      apply h.mem_listeners n
      simpa [isListening, DraftStore.subscribe, List.getElem?_append_left hold] using hn
    · right
      rw [List.mem_singleton]
      by_contra hne
      have hout : s.subscribe.2.inboxes.length ≤ n := by
        rw [DraftStore.subscribe, List.length_append, List.length_singleton]
        omega
      rw [isListening, List.getElem?_eq_none hout] at hn
      cases hn

theorem Connected.unsubscribe {s : DraftStore} (h : s.Connected) (number : Nat) :
    (s.unsubscribe number).Connected := by
  refine ⟨h.nodup, ?_, ?_⟩
  · intro n hn
    rw [DraftStore.unsubscribe, List.length_modify]
    exact h.lt_length n hn
  · intro n hn
    apply h.mem_listeners n
    simp only [isListening, DraftStore.unsubscribe, List.getElem?_modify] at hn ⊢
    cases hinbox : s.inboxes[n]? with
    | none => simp [hinbox] at hn
    | some inbox =>
      by_cases heq : number = n
      · simp [hinbox, heq] at hn
      · simpa [hinbox, heq] using hn

end DraftStore

/-! ## Deliveries -/

namespace DraftStore

/-- From one store to another, an inbox stays open unless it is dropped, and as long as it is open
it receives some events and nothing else. -/
def Delivered (s s' : DraftStore) (number : Nat) (events : List DraftEvent) (dropped : Prop) :
    Prop :=
  ∀ inbox, s.inboxes[number]? = some inbox →
    ∃ inbox', s'.inboxes[number]? = some inbox' ∧ (inbox'.isOpen ↔ inbox.isOpen ∧ ¬dropped) ∧
      (inbox'.isOpen → inbox'.received.toList = inbox.received.toList ++ events)

namespace Delivered

variable {s s' s'' : DraftStore} {number : Nat} {events events' : List DraftEvent}
  {dropped dropped' : Prop}

theorem of_inboxes_eq (h : s'.inboxes = s.inboxes) (hdropped : ¬dropped) :
    Delivered s s' number [] dropped :=
  fun inbox hinbox => ⟨inbox, h ▸ hinbox, by simp [hdropped], by simp⟩

theorem trans (h : Delivered s s' number events dropped)
    (h' : Delivered s' s'' number events' dropped') :
    Delivered s s'' number (events ++ events') (dropped ∨ dropped') := by
  intro inbox hinbox
  obtain ⟨mid, hmid, hopen, hreceived⟩ := h inbox hinbox
  obtain ⟨last, hlast, hopen', hreceived'⟩ := h' mid hmid
  refine ⟨last, hlast, by rw [hopen', hopen, not_or, and_assoc], ?_⟩
  intro hlastOpen
  rw [hreceived' hlastOpen, hreceived (hopen'.mp hlastOpen).1, List.append_assoc]

theorem emit (h : s.Connected) (event : DraftEvent) :
    Delivered s (s.emit event) number [event] False := by
  intro inbox hinbox
  refine ⟨inbox.receive event, by simp [inboxes_emit h, hinbox], ?_, ?_⟩
  · simp [isOpen_receive]
  · intro hopen
    rw [isOpen_receive] at hopen
    simp [Inbox.receive, hopen]

theorem emitAll (h : s.Connected) (events : List DraftEvent) :
    Delivered s (s.emitAll events) number events False := by
  induction events generalizing s with
  | nil => exact of_inboxes_eq rfl not_false
  | cons event events ih =>
    have hboth : Delivered s _ number _ _ := (emit h event).trans (ih (h.emit event))
    rwa [or_false] at hboth

end Delivered

end DraftStore

namespace Edit

/-- Edits change the drafts and the selection first and send their events afterwards. -/
theorem apply_eq_emitAll (s : DraftStore) (e : Edit) (hsubscribe : e ≠ .subscribe)
    (hunsubscribe : ∀ number, e ≠ .unsubscribe number) :
    e.apply s =
      { s with
        tasks := (e.apply s).view.tasks
        selected := (e.apply s).view.selected : DraftStore }.emitAll (e.events s) := by
  cases e with
  | add batch reproject => cases batch <;> rfl
  | remove id =>
    by_cases hid : id ∈ s.ids
    · obtain ⟨t, ht⟩ := DraftStore.exists_find?_eq hid
      simp only [apply, events, if_pos hid, DraftStore.removeTask, ht]
      rfl
    · have hnone := DraftStore.find?_eq_none_iff.mpr hid
      rw [events, if_neg hid, apply, DraftStore.removeTask_of_find?_eq_none hnone]
      rfl
  | rename id name =>
    cases hfind : s.find? id with
    | none =>
      rw [events, hfind, apply, DraftStore.rename_of_find?_eq_none hfind]
      rfl
    | some t =>
      simp only [apply, events, hfind, DraftStore.rename]
      rfl
  | select id =>
    simp only [apply, events, DraftStore.select, ← DraftStore.find?_isSome_iff]
    split
    · rfl
    · cases s.find? id <;> rfl
  | deselect => rfl
  | clear =>
    rw [apply, DraftStore.view, DraftStore.tasks_clear, DraftStore.selected_clear,
      DraftStore.clear_eq]
    rfl
  | subscribe => exact absurd rfl hsubscribe
  | unsubscribe number => exact absurd rfl (hunsubscribe number)

end Edit

/-! ## Runs -/

section Runs

variable {s : DraftStore}

theorem DraftStore.Connected.apply (h : s.Connected) (e : Edit) : (e.apply s).Connected := by
  cases e with
  | subscribe => exact h.subscribe
  | unsubscribe number => exact h.unsubscribe number
  | _ =>
    rw [Edit.apply_eq_emitAll s _ (by simp) (by simp)]
    exact (h.of_view _).emitAll _

theorem DraftStore.delivered_unsubscribe (s : DraftStore) (dropped number : Nat) :
    Delivered s (s.unsubscribe dropped) number [] (dropped = number) := by
  intro inbox hinbox
  by_cases heq : dropped = number
  · exact ⟨{ inbox with isOpen := false }, by simp [unsubscribe, hinbox, heq], by simp [heq],
      by simp⟩
  · exact ⟨inbox, by simp [unsubscribe, hinbox, heq], by simp [heq], by simp⟩

theorem DraftStore.delivered_subscribe (s : DraftStore) (number : Nat) :
    Delivered s s.subscribe.2 number [] False := by
  intro inbox hinbox
  have hlt := (List.getElem?_eq_some_iff.mp hinbox).1
  refine ⟨inbox, ?_, by simp, by simp⟩
  rw [subscribe, List.getElem?_append_left hlt, hinbox]

/-- An inbox receives the events of an edit, and no edit but its own closes it. -/
theorem Edit.delivered_apply (h : s.Connected) (e : Edit) (number : Nat) :
    s.Delivered (e.apply s) number (e.events s) (e = .unsubscribe number) := by
  cases e with
  | subscribe =>
    simp only [reduceCtorEq]
    exact s.delivered_subscribe number
  | unsubscribe dropped =>
    simp only [unsubscribe.injEq]
    exact s.delivered_unsubscribe dropped number
  | _ =>
    rw [Edit.apply_eq_emitAll s _ (by simp) (by simp)]
    simp only [reduceCtorEq]
    exact DraftStore.Delivered.emitAll (h.of_view _) _

theorem DraftStore.delivered_addTasks (h : s.Connected) {batch : List NewDraft} (hne : batch ≠ [])
    (reproject : Bool) (number : Nat) :
    s.Delivered (s.addTasks batch reproject).2 number [.added (s.addTasks batch reproject).1]
      False := by
  simpa [Edit.events, hne, Edit.apply] using
    (Edit.add batch reproject).delivered_apply h number

theorem DraftStore.delivered_removeTask (h : s.Connected) {id : String} (hid : id ∈ s.ids)
    (number : Nat) :
    s.Delivered (s.removeTask id).2 number [.removed id] False := by
  simpa [Edit.events, hid, Edit.apply] using (Edit.remove id).delivered_apply h number

def DraftStore.eventsOf (s : DraftStore) : List Edit → List DraftEvent
  | [] => []
  | e :: edits => e.events s ++ (e.apply s).eventsOf edits

theorem DraftStore.Connected.applyAll (h : s.Connected) (edits : List Edit) :
    (s.applyAll edits).Connected := by
  induction edits generalizing s with
  | nil => exact h
  | cons e edits ih => exact ih (h.apply e)

theorem DraftStore.delivered_applyAll (h : s.Connected) (edits : List Edit) (number : Nat) :
    s.Delivered (s.applyAll edits) number (s.eventsOf edits) (.unsubscribe number ∈ edits) := by
  induction edits generalizing s with
  | nil => exact .of_inboxes_eq rfl List.not_mem_nil
  | cons e edits ih =>
    simp only [List.mem_cons, eq_comm (a := Edit.unsubscribe number)]
    exact (e.delivered_apply h number).trans (ih (h.apply e))

theorem DraftStore.view_applyAll (h : s.SelectionStored) (edits : List Edit) :
    s.view.replayAll (s.eventsOf edits) = (s.applyAll edits).view := by
  induction edits generalizing s with
  | nil => rfl
  | cons e edits ih =>
    rw [eventsOf, View.replayAll_append, Edit.view_apply h e, ih (h.apply e)]
    rfl

namespace Command

def events (s : DraftStore) (c : Command) : List DraftEvent := s.eventsOf (c.edits s)

def allEvents (s : DraftStore) : List Command → List DraftEvent
  | [] => []
  | c :: commands => c.events s ++ allEvents (c.run s).2 commands

theorem unsubscribe_mem_edits (s : DraftStore) (c : Command) (number : Nat) :
    .unsubscribe number ∈ c.edits s ↔ c = .unsubscribe number := by
  constructor
  · exact fun hmem => eq_command_of_mem_edits hmem (by simp) (by simp)
  · rintro rfl
    exact List.mem_singleton_self _

theorem connected_run (h : s.Connected) (c : Command) : (c.run s).2.Connected := by
  rw [run_eq_applyAll]
  exact h.applyAll _

theorem delivered_run (h : s.Connected) (c : Command) (number : Nat) :
    s.Delivered (c.run s).2 number (c.events s) (c = .unsubscribe number) := by
  rw [run_eq_applyAll, ← unsubscribe_mem_edits s]
  exact s.delivered_applyAll h _ number

theorem view_run (h : s.SelectionStored) (c : Command) :
    s.view.replayAll (c.events s) = (c.run s).2.view := by
  rw [run_eq_applyAll]
  exact s.view_applyAll h _

theorem connected_runAll (h : s.Connected) (commands : List Command) :
    (runAll s commands).Connected := by
  induction commands generalizing s with
  | nil => exact h
  | cons c commands ih => exact ih (connected_run h c)

theorem delivered_runAll (h : s.Connected) (commands : List Command) (number : Nat) :
    s.Delivered (runAll s commands) number (allEvents s commands)
      (.unsubscribe number ∈ commands) := by
  induction commands generalizing s with
  | nil => exact .of_inboxes_eq rfl List.not_mem_nil
  | cons c commands ih =>
    simp only [List.mem_cons, eq_comm (a := Command.unsubscribe number)]
    exact (delivered_run h c number).trans (ih (connected_run h c))

theorem view_runAll (h : s.SelectionStored) (commands : List Command) :
    s.view.replayAll (allEvents s commands) = (runAll s commands).view := by
  induction commands generalizing s with
  | nil => rfl
  | cons c commands ih =>
    rw [allEvents, View.replayAll_append, view_run h c, ih (selectionStored_run h c), runAll_cons]

end Command

theorem Reachable.connected {s : DraftStore} (h : Reachable s) : s.Connected := by
  induction h with
  | empty =>
    exact ⟨List.nodup_nil, by simp [DraftStore.empty],
      by simp [DraftStore.isListening, DraftStore.empty]⟩
  | run c _ _ ih => exact Command.connected_run ih c

end Runs

/-- **Subscribers.** Whoever subscribes at some point of a run keeps an open inbox until it
unsubscribes. The inbox holds the events from then on, each once and in order, and replaying them
on the drafts and the selection at that point gives those at the end of the run. -/
theorem subscriber_replays (before after : List Command) :
    let joined := (Command.runAll .empty before).subscribe
    let last := Command.runAll .empty (before ++ .subscribe :: after)
    ∃ inbox, last.inboxes[joined.1]? = some inbox ∧
      (inbox.isOpen ↔ .unsubscribe joined.1 ∉ after) ∧
      (inbox.isOpen →
        inbox.received.toList = Command.allEvents joined.2 after ∧
        (Command.runAll .empty before).view.replayAll inbox.received.toList = last.view) := by
  intro joined last
  have hconnected : (Command.runAll .empty before).Connected :=
    Command.connected_runAll ⟨List.nodup_nil, by simp [DraftStore.empty],
      by simp [DraftStore.isListening, DraftStore.empty]⟩ before
  have hstored : (Command.runAll .empty before).SelectionStored :=
    Command.selectionStored_runAll (fun id hid => by cases hid) before
  have hlast : last = Command.runAll joined.2 after := Command.runAll_append _ _ _
  have hnew : joined.2.inboxes[joined.1]? = some ⟨true, #[]⟩ := by
    simp [joined, DraftStore.subscribe]
  obtain ⟨inbox, hinbox, hopen, hreceived⟩ :=
    Command.delivered_runAll hconnected.subscribe after joined.1 _ hnew
  refine ⟨inbox, by rw [hlast, hinbox], by simpa using hopen, ?_⟩
  intro hisOpen
  have hevents : inbox.received.toList = Command.allEvents joined.2 after := by
    simpa using hreceived hisOpen
  refine ⟨hevents, ?_⟩
  rw [hevents, hlast]
  exact Command.view_runAll (s := joined.2) hstored after

end GeoDrafts
