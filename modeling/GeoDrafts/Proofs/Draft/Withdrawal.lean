import GeoDrafts.Proofs.Draft.Batch

/-!
Taking a batch back. Identifiers are unique, so a removal takes out the draft with its identifier and
no other, and a run of removals leaves the drafts whose identifiers are not among the removed ones,
whatever the order. The identifiers of a batch are new; so what is left are the drafts that were
there before, and the next batch gets the same indices again.
-/

namespace GeoDrafts

def Command.removals (drafts : List TaskDraft) : List Command := drafts.map fun t => .remove t.id

namespace DraftStore

variable {s : DraftStore}

/-! ## One removal -/

/-- Where identifiers are unique, taking out the first draft with one takes out all of them. -/
private theorem eraseP_eq_filter {tasks : List TaskDraft} (h : (tasks.map (·.id)).Nodup)
    (id : String) : (tasks.eraseP fun t => t.id == id) = tasks.filter fun t => t.id ≠ id := by
  induction tasks with
  | nil => rfl
  | cons t tasks ih =>
    obtain ⟨hout, hnodup⟩ := List.nodup_cons.mp h
    by_cases hid : t.id = id
    · have hothers : ∀ u ∈ tasks, decide (u.id ≠ id) = true := by
        intro u hu
        have hmem : u.id ∈ tasks.map (·.id) := List.mem_map_of_mem hu
        refine decide_eq_true fun heq => hout ?_
        rwa [heq, ← hid] at hmem
      rw [List.eraseP_cons_of_pos (by simpa using hid),
        List.filter_cons_of_neg (by simpa using hid), List.filter_eq_self.mpr hothers]
    · rw [List.eraseP_cons_of_neg (by simpa using hid),
        List.filter_cons_of_pos (by simpa using hid), ih hnodup]

theorem tasks_removeTask_of_nodup (h : s.ids.Nodup) (id : String) :
    (s.removeTask id).2.tasks = s.tasks.filter fun t => t.id ≠ id := by
  rw [tasks_removeTask, eraseP_eq_filter h]

theorem nodup_ids_removeTask (h : s.ids.Nodup) (id : String) : (s.removeTask id).2.ids.Nodup := by
  rw [ids, tasks_removeTask]
  exact h.sublist (s.ids_eraseP_sublist id)

theorem selected_removeTask_of_ne {id : String} (h : s.selected ≠ some id) :
    (s.removeTask id).2.selected = s.selected := by
  cases hfind : s.find? id with
  | none => rw [removeTask_of_find?_eq_none hfind]
  | some t => rw [selected_removeTask hfind, if_neg h]

theorem removeTask_of_mem (h : s.ids.Nodup) {t : TaskDraft} (ht : t ∈ s.tasks) :
    (s.removeTask t.id).1 = some t := by
  obtain ⟨u, hfind⟩ := exists_find?_eq (s := s) (List.mem_map_of_mem ht)
  obtain ⟨hu, hid⟩ := mem_ids_of_find? hfind
  rw [removeTask, hfind, List.inj_on_of_nodup_map h hu ht hid]

/-! ## A run of removals -/

/-- What is left are the drafts whose identifiers are not removed. -/
theorem tasks_removals (h : s.ids.Nodup) (drafts : List TaskDraft) :
    (Command.runAll s (Command.removals drafts)).tasks =
      s.tasks.filter fun t => t.id ∉ drafts.map (·.id) := by
  induction drafts generalizing s with
  | nil => simp [Command.removals]
  | cons d drafts ih =>
    calc
      _ = (s.removeTask d.id).2.tasks.filter fun t => t.id ∉ drafts.map (·.id) :=
        ih (nodup_ids_removeTask h d.id)
      _ = s.tasks.filter fun t => t.id ∉ (d :: drafts).map (·.id) := by
        rw [tasks_removeTask_of_nodup h, List.filter_filter]
        refine List.filter_congr fun t _ => ?_
        rw [← Bool.decide_and, decide_eq_decide, List.map_cons, List.mem_cons, not_or, and_comm]

theorem nodup_ids_removals (h : s.ids.Nodup) (drafts : List TaskDraft) :
    (Command.runAll s (Command.removals drafts)).ids.Nodup := by
  rw [ids, tasks_removals h]
  exact h.sublist (List.filter_sublist.map _)

/-- A selection of another draft stays. -/
theorem selected_removals {drafts : List TaskDraft} (h : ∀ d ∈ drafts, s.selected ≠ some d.id) :
    (Command.runAll s (Command.removals drafts)).selected = s.selected := by
  induction drafts generalizing s with
  | nil => rfl
  | cons d drafts ih =>
    obtain ⟨hd, hdrafts⟩ := List.forall_mem_cons.mp h
    have hstep := selected_removeTask_of_ne hd
    rw [← hstep] at hdrafts ⊢
    exact ih hdrafts

/-! ## A batch -/

/-- What a batch gets depends only on the drafts that are stored. -/
theorem added_of_tasks_eq {s' : DraftStore} (h : s.tasks = s'.tasks) (batch : List NewDraft)
    (reproject : Bool) : (s.addTasks batch reproject).1 = (s'.addTasks batch reproject).1 := by
  rw [added_addTasks, added_addTasks, assignAll, assignAll, indices, indices, h]

section
variable {batch : List NewDraft} {reproject : Bool} {order : List TaskDraft}

/-- The drafts that were there before have other identifiers than those of a batch. -/
theorem Identified.id_notMem_added (h : s.Identified)
    (horder : order.Perm (s.addTasks batch reproject).1) {t : TaskDraft} (ht : t ∈ s.tasks) :
    t.id ∉ order.map (·.id) := by
  have hnodup := h.nodup_ids_addTasks batch reproject
  rw [ids, tasks_addTasks, List.map_append, List.nodup_append] at hnodup
  intro hmem
  exact hnodup.2.2 _ (List.mem_map_of_mem ht) _ ((horder.map _).mem_iff.mp hmem) rfl

theorem Identified.tasks_removals_added (h : s.Identified)
    (horder : order.Perm (s.addTasks batch reproject).1) :
    (Command.runAll (s.addTasks batch reproject).2 (Command.removals order)).tasks = s.tasks := by
  have hkept : s.tasks.filter (fun t => t.id ∉ order.map (·.id)) = s.tasks :=
    List.filter_eq_self.mpr fun t ht => decide_eq_true (h.id_notMem_added horder ht)
  have hgone : (s.addTasks batch reproject).1.filter (fun t => t.id ∉ order.map (·.id)) = [] := by
    refine List.filter_eq_nil_iff.mpr fun t ht => ?_
    have hmem : t.id ∈ order.map (·.id) := List.mem_map_of_mem (horder.mem_iff.mpr ht)
    rw [decide_eq_true_eq, not_not]
    exact hmem
  rw [tasks_removals (h.nodup_ids_addTasks batch reproject), tasks_addTasks, List.filter_append,
    hkept, hgone, List.append_nil]

theorem Identified.selected_removals_added (h : s.Identified) (hstored : s.SelectionStored)
    (horder : order.Perm (s.addTasks batch reproject).1) :
    (Command.runAll (s.addTasks batch reproject).2 (Command.removals order)).selected =
      s.selected := by
  rw [selected_removals, selected_addTasks]
  intro t ht hselected
  rw [selected_addTasks] at hselected
  obtain ⟨u, hu, hid⟩ := List.mem_map.mp (hstored t.id hselected)
  exact h.id_notMem_added horder hu (hid ▸ List.mem_map_of_mem ht)

/-- Where identifiers are unique, a draft differs in its own from all before it. -/
private theorem id_notMem_earlier {before rest : List TaskDraft} {t : TaskDraft}
    (h : ((before ++ t :: rest).map (·.id)).Nodup) : t.id ∉ before.map (·.id) := by
  rw [List.map_append, List.map_cons, List.nodup_middle] at h
  exact fun hmem => (List.nodup_cons.mp h).1 (List.mem_append_left _ hmem)

/-- Whatever was removed before, the next draft of the batch is still there. -/
theorem Identified.removeTask_of_added (h : s.Identified)
    (horder : order.Perm (s.addTasks batch reproject).1) {before rest : List TaskDraft}
    {t : TaskDraft} (hsplit : order = before ++ t :: rest) :
    ((Command.runAll (s.addTasks batch reproject).2 (Command.removals before)).removeTask
      t.id).1 = some t := by
  subst hsplit
  have hnodup := h.nodup_ids_addTasks batch reproject
  have hin : t ∈ (s.addTasks batch reproject).2.tasks := by
    rw [tasks_addTasks]
    exact List.mem_append_right _ (horder.mem_iff.mp (by simp))
  have hout : t.id ∉ before.map (·.id) := by
    rw [ids, tasks_addTasks, List.map_append, List.nodup_append] at hnodup
    exact id_notMem_earlier ((horder.map (·.id)).nodup_iff.mpr hnodup.2.1)
  apply removeTask_of_mem (nodup_ids_removals hnodup before)
  rw [tasks_removals hnodup]
  exact List.mem_filter.mpr ⟨hin, decide_eq_true hout⟩

end

end DraftStore

/-- **Taking a batch back.** If the drafts of a batch are removed one after another, in any order,
then each removal returns its draft, and afterwards the drafts and the selection are what they were
before the batch. Adding the batch again stores the same drafts. -/
theorem removing_batch_restores {s : DraftStore} (h : Reachable s) (batch : List NewDraft)
    (reproject : Bool) {order : List TaskDraft}
    (horder : order.Perm (s.addTasks batch reproject).1) :
    let added := (s.addTasks batch reproject).1
    let after := (s.addTasks batch reproject).2
    let undone := Command.runAll after (Command.removals order)
    (∀ before t rest, order = before ++ t :: rest →
      ((Command.remove t.id).run (Command.runAll after (Command.removals before))).1 =
        .ok (.draft (some t))) ∧
    undone.tasks = s.tasks ∧ undone.selected = s.selected ∧
    (undone.addTasks batch reproject).1 = added ∧
    (undone.addTasks batch reproject).2.tasks = after.tasks ∧
    (undone.addTasks batch reproject).2.selected = after.selected := by
  intro added after undone
  have htasks : undone.tasks = s.tasks := h.identified.tasks_removals_added horder
  have hselected : undone.selected = s.selected :=
    h.identified.selected_removals_added h.selectionStored horder
  have hagain : (undone.addTasks batch reproject).1 = added :=
    DraftStore.added_of_tasks_eq htasks batch reproject
  refine ⟨fun before t rest hsplit => ?_, htasks, hselected, hagain, ?_, ?_⟩
  · exact congrArg (fun found => Except.ok (Reply.draft found))
      (h.identified.removeTask_of_added horder hsplit)
  · rw [DraftStore.tasks_addTasks, hagain, htasks, ← DraftStore.tasks_addTasks]
  · rw [DraftStore.selected_addTasks, hselected, ← DraftStore.selected_addTasks]

/-- Of a batch that asks for an index in use, for another one twice and for none, all drafts are
removed, the last one first. -/
theorem removing_batch_restores_reversed :
    let ask (id : Option RawId) : NewDraft := ⟨id, none, .polygon [], 0⟩
    let s := Command.runAll .empty [.addTasks [ask (some (.text "1"))] false, .select "1"]
    let batch := [ask (some (.text "1")), ask (some (.number 3.0)), ask (some (.text "3")),
      ask none]
    let added := (s.addTasks batch false).1
    let undone := Command.runAll (s.addTasks batch false).2 (Command.removals added.reverse)
    added.map (·.id) = ["0", "3", "2", "4"] ∧ undone.tasks = s.tasks ∧
      undone.selected = some "1" ∧ (undone.addTasks batch false).1 = added := by
  intro ask s batch added undone
  have hs : s = ((DraftStore.empty.addTasks [ask (some (.text "1"))] false).2.select "1").2 := rfl
  have hadded : (DraftStore.empty.addTasks [ask (some (.text "1"))] false).2.ids = ["1"] := by
    have hasked : [ask (some (.text "1"))].map NewDraft.index? = [some 1] := by decide +kernel
    rw [DraftStore.ids_addTasks, DraftStore.assignAll_eq_indicesFor, hasked]
    rfl
  have hselected : s.selected = some "1" := by
    rw [hs, DraftStore.selected_select, DraftStore.selected_addTasks, if_neg (by decide), if_pos]
    rw [DraftStore.find?_isSome_iff, hadded]
    decide
  have hids : s.ids = ["1"] := by
    rw [hs, DraftStore.ids, DraftStore.tasks_select]
    exact hadded
  have hindices : s.indices = [1] := DraftStore.filterMap_index_of_ids hids (by decide)
  have hrequests : batch.map NewDraft.index? = [some 1, some 3, some 3, none] := by
    decide +kernel
  have hgot : indicesFor [1] [some 1, some 3, some 3, none] = [0, 3, 2, 4] := by
    simp only [indicesFor, freshScan, leastMissing_eq_find?]
    decide
  obtain ⟨-, htasks, hundone, hagain, -⟩ := removing_batch_restores
    (Reachable.empty.runAll (by decide) : Reachable s) batch false added.reverse_perm
  refine ⟨?_, htasks, hundone.trans hselected, hagain⟩
  rw [DraftStore.map_id_added, DraftStore.assignAll_eq_indicesFor, hindices, hrequests, hgot]
  rfl

end GeoDrafts
