import GeoDrafts.Proofs.Draft.Assignment
import GeoDrafts.Proofs.Draft.Edit

/-!
The stores that runs of commands lead to. Identifiers are decimal texts of numbers below `2 ^ 64`,
no two drafts have the same, and the selected draft is a stored one. Each edit keeps this, so every
command does.
-/

namespace GeoDrafts

namespace DraftStore

def ids (s : DraftStore) : List String := s.tasks.map (·.id)

theorem ids_eraseP_sublist (s : DraftStore) (id : String) :
    ((s.tasks.eraseP fun t => t.id == id).map (·.id)).Sublist s.ids :=
  List.eraseP_sublist.map _

theorem mem_ids_of_find? {s : DraftStore} {id : String} {t : TaskDraft}
    (h : s.find? id = some t) : t ∈ s.tasks ∧ t.id = id :=
  ⟨List.mem_of_find?_eq_some h, by simpa using List.find?_some h⟩

theorem find?_isSome_iff {s : DraftStore} {id : String} :
    (s.find? id).isSome ↔ id ∈ s.ids := by
  simp [find?, ids]

theorem find?_eq_none_iff {s : DraftStore} {id : String} : s.find? id = none ↔ id ∉ s.ids := by
  rw [← find?_isSome_iff, Option.not_isSome_iff_eq_none]

theorem exists_find?_eq {s : DraftStore} {id : String} (h : id ∈ s.ids) :
    ∃ t, s.find? id = some t :=
  Option.isSome_iff_exists.mp (find?_isSome_iff.mpr h)

/-! ## The identifiers after an operation -/

theorem length_assignAll (s : DraftStore) (batch : List NewDraft) :
    (s.assignAll batch).length = batch.length := by
  rw [assignAll_eq_indicesFor, length_indicesFor, List.length_map]

@[simp]
theorem length_added (s : DraftStore) (batch : List NewDraft) (reproject : Bool) :
    (s.addTasks batch reproject).1.length = batch.length := by
  rw [added_addTasks, List.length_zipWith, length_assignAll, Nat.min_self]

theorem map_id_zipWith_storedAs (reproject : Bool) (batch : List NewDraft) (indices : List Nat)
    (h : batch.length = indices.length) :
    (List.zipWith (storedAs reproject) batch indices).map (·.id) =
      indices.map toString := by
  induction batch generalizing indices with
  | nil =>
    cases indices with
    | nil => rfl
    | cons i indices => cases h
  | cons d batch ih =>
    cases indices with
    | nil => cases h
    | cons i indices => simpa [storedAs] using ih indices (Nat.succ.inj h)

theorem ids_addTasks (s : DraftStore) (batch : List NewDraft) (reproject : Bool) :
    (s.addTasks batch reproject).2.ids = s.ids ++ (s.assignAll batch).map toString := by
  rw [ids, tasks_addTasks, List.map_append, added_addTasks,
    map_id_zipWith_storedAs _ _ _ (length_assignAll s batch).symm]
  rfl

theorem map_id_replaceTask {id : String} {new : TaskDraft} (h : new.id = id)
    (tasks : List TaskDraft) : (replaceTask id new tasks).map (·.id) = tasks.map (·.id) := by
  induction tasks with
  | nil => rfl
  | cons t ts ih =>
    unfold replaceTask
    split
    · rename_i heq
      simp [h, beq_iff_eq.mp heq]
    · simp [ih]

theorem ids_rename (s : DraftStore) (id name : String) : (s.rename id name).2.ids = s.ids := by
  cases h : s.find? id with
  | none => rw [rename_of_find?_eq_none h]
  | some t =>
    have hid : ({ t with name := name } : TaskDraft).id = id := (mem_ids_of_find? h).2
    rw [ids, tasks_rename h]
    exact map_id_replaceTask hid s.tasks

theorem length_rename (s : DraftStore) (id name : String) :
    (s.rename id name).2.tasks.length = s.tasks.length := by
  simpa only [ids, List.length_map] using congrArg List.length (s.ids_rename id name)

/-! ## Decimal identifiers -/

/-- The identifiers of a store are decimal texts, no two the same. -/
structure Identified (s : DraftStore) : Prop where
  canonical : ∀ id ∈ s.ids, ∃ n, n < 2 ^ 64 ∧ id = toString n
  nodup : s.ids.Nodup

theorem Identified.of_sublist {s t : DraftStore} (h : s.Identified) (hsub : t.ids.Sublist s.ids) :
    t.Identified :=
  ⟨fun id hid => h.canonical id (hsub.subset hid), h.nodup.sublist hsub⟩

/-- A store that has an identifier also has its index. -/
theorem mem_indices_of_mem_ids {s : DraftStore} {n : Nat} (hn : n < 2 ^ 64)
    (h : toString n ∈ s.ids) : n ∈ s.indices := by
  obtain ⟨t, ht, hid⟩ := List.mem_map.mp h
  exact List.mem_filterMap.mpr ⟨t, ht, by rw [hid, indexOfText?_toString hn]⟩

/-- A number is in use just if its text is an identifier. -/
theorem Identified.mem_indices_iff {s : DraftStore} (h : s.Identified) {n : Nat} :
    n ∈ s.indices ↔ toString n ∈ s.ids := by
  constructor
  · intro hn
    obtain ⟨t, ht, hindex⟩ := List.mem_filterMap.mp hn
    have hid : t.id ∈ s.ids := List.mem_map_of_mem ht
    obtain ⟨m, hm, htext⟩ := h.canonical t.id hid
    rw [htext, indexOfText?_toString hm, Option.some.injEq] at hindex
    rwa [← hindex, ← htext]
  · intro hid
    obtain ⟨m, hm, htext⟩ := h.canonical _ hid
    obtain rfl := toString_nat_inj.mp htext
    exact mem_indices_of_mem_ids hm hid

theorem length_indices_le (s : DraftStore) : s.indices.length ≤ s.tasks.length :=
  List.length_filterMap_le _ _

/-- Indices stay below `2 ^ 64` as long as there are no more drafts than that. -/
theorem lt_of_mem_assignAll {s : DraftStore} {batch : List NewDraft} {i : Nat}
    (hroom : s.tasks.length + batch.length ≤ 2 ^ 64) (h : i ∈ s.assignAll batch) : i < 2 ^ 64 := by
  rw [assignAll_eq_indicesFor] at h
  by_cases hi : some i ∈ batch.map NewDraft.index?
  · obtain ⟨d, _, hd⟩ := List.mem_map.mp hi
    obtain ⟨id, _, hid⟩ := Option.bind_eq_some_iff.mp hd
    exact RawId.index?_lt hid
  · have hlt := lt_of_mem_indicesFor h hi
    have hlen := s.length_indices_le
    rw [List.length_map] at hlt
    omega

/-- However many drafts are added, their identifiers are new and differ. -/
theorem Identified.nodup_ids_addTasks {s : DraftStore} (h : s.Identified)
    (batch : List NewDraft) (reproject : Bool) : (s.addTasks batch reproject).2.ids.Nodup := by
  rw [ids_addTasks, assignAll_eq_indicesFor, List.nodup_append]
  refine ⟨h.nodup, nodup_indicesFor.map fun _ _ => toString_nat_inj.mp, ?_⟩
  rintro id hid _ hnew rfl
  obtain ⟨i, hi, rfl⟩ := List.mem_map.mp hnew
  exact notMem_of_mem_indicesFor hi (h.mem_indices_iff.mpr hid)

theorem Identified.addTasks {s : DraftStore} (h : s.Identified) {batch : List NewDraft}
    (reproject : Bool) (hroom : s.tasks.length + batch.length ≤ 2 ^ 64) :
    (s.addTasks batch reproject).2.Identified := by
  constructor
  · intro id hid
    rw [ids_addTasks, List.mem_append] at hid
    rcases hid with hid | hid
    · exact h.canonical id hid
    · obtain ⟨i, hi, rfl⟩ := List.mem_map.mp hid
      exact ⟨i, lt_of_mem_assignAll hroom hi, rfl⟩
  · exact h.nodup_ids_addTasks batch reproject

theorem Identified.removeTask {s : DraftStore} (h : s.Identified) (id : String) :
    (s.removeTask id).2.Identified := by
  apply h.of_sublist
  rw [ids, tasks_removeTask]
  exact s.ids_eraseP_sublist id

/-- The others have other identifiers. -/
theorem Identified.ne_of_mem_others {s : DraftStore} (h : s.Identified) {front back : List TaskDraft}
    {t : TaskDraft} (hsplit : s.tasks = front ++ t :: back) :
    ∀ other ∈ front ++ back, other.id ≠ t.id := by
  intro other hother heq
  have hnodup := h.nodup
  rw [ids, hsplit, List.map_append, List.map_cons, List.nodup_middle, ← List.map_append] at hnodup
  exact (List.nodup_cons.mp hnodup).1 (heq ▸ List.mem_map_of_mem hother)

/-- A draft that is found stands among others, which are left when it is removed. -/
theorem exists_split_of_find? {s : DraftStore} {id : String} {t : TaskDraft}
    (h : s.find? id = some t) : ∃ front back, s.tasks = front ++ t :: back ∧
      (s.removeTask id).2.tasks = front ++ back := by
  obtain ⟨hid, front, back, hsplit, hfront⟩ := List.find?_eq_some_iff_append.mp h
  refine ⟨front, back, hsplit, ?_⟩
  rw [tasks_removeTask, hsplit, List.eraseP_append_right _ (by simpa using hfront),
    List.eraseP_cons, hid, cond_true]

theorem Identified.apply {s : DraftStore} (h : s.Identified) (e : Edit)
    (hroom : (e.apply s).tasks.length ≤ 2 ^ 64) : (e.apply s).Identified := by
  cases e with
  | add batch reproject =>
    simp only [Edit.apply, tasks_addTasks, List.length_append, length_added] at hroom
    exact h.addTasks reproject hroom
  | remove id => exact h.removeTask id
  | rename id name =>
    apply h.of_sublist
    rw [Edit.apply, ids_rename]
  | select id =>
    apply h.of_sublist
    rw [ids, Edit.apply, tasks_select]
    exact List.Sublist.refl _
  | clear =>
    apply h.of_sublist
    rw [ids, Edit.apply, tasks_clear]
    exact List.nil_sublist _
  | deselect => exact h.of_sublist (List.Sublist.refl _)
  | subscribe => exact h.of_sublist (List.Sublist.refl _)
  | unsubscribe number => exact h.of_sublist (List.Sublist.refl _)

/-! ## The selection -/

/-- The selected identifier, if there is one, is that of a stored draft. -/
def SelectionStored (s : DraftStore) : Prop := ∀ id, s.selected = some id → id ∈ s.ids

theorem SelectionStored.removeTask {s : DraftStore} (h : s.SelectionStored) (id : String) :
    (s.removeTask id).2.SelectionStored := by
  cases hfind : s.find? id with
  | none => rwa [removeTask_of_find?_eq_none hfind]
  | some t =>
    intro selected hselected
    rw [selected_removeTask hfind] at hselected
    split at hselected
    · cases hselected
    · rename_i hne
      obtain ⟨u, hu, rfl⟩ := List.mem_map.mp (h selected hselected)
      have hu' : u ∈ s.tasks.eraseP fun t => t.id == id := by
        refine (List.mem_eraseP_of_neg ?_).mpr hu
        exact fun heq => hne (beq_iff_eq.mp heq ▸ hselected)
      rw [ids, tasks_removeTask]
      exact List.mem_map.mpr ⟨u, hu', rfl⟩

theorem SelectionStored.select {s : DraftStore} (h : s.SelectionStored) (id : String) :
    (s.select id).2.SelectionStored := by
  intro selected hselected
  rw [ids, tasks_select]
  rw [selected_select] at hselected
  split at hselected
  · cases hselected
  · split at hselected
    · rename_i hfound
      cases hselected
      exact find?_isSome_iff.mp hfound
    · exact h selected hselected

theorem SelectionStored.apply {s : DraftStore} (h : s.SelectionStored) (e : Edit) :
    (e.apply s).SelectionStored := by
  cases e with
  | add batch reproject =>
    intro id hid
    rw [Edit.apply, selected_addTasks] at hid
    rw [Edit.apply, ids_addTasks]
    exact List.mem_append_left _ (h id hid)
  | remove id => exact h.removeTask id
  | rename id name =>
    intro selected hselected
    rw [Edit.apply, selected_rename] at hselected
    rw [Edit.apply, ids_rename]
    exact h selected hselected
  | select id => exact h.select id
  | deselect =>
    intro id hid
    cases hid
  | clear =>
    intro id hid
    rw [Edit.apply, selected_clear] at hid
    cases hid
  | subscribe => exact h
  | unsubscribe number => exact h

end DraftStore

/-! ## Runs -/

namespace Command

/-- A command makes no edit, or one, which is its own or adds a batch, or the two that replace a
draft by its cells. -/
theorem edits_cases (s : DraftStore) (c : Command) :
    c.edits s = [] ∨
      (∃ e, c.edits s = [e] ∧ (c = e.command ∨ ∃ batch reproject, e = .add batch reproject)) ∨
      ∃ id shapeName size cells, c = .subdivide id shapeName size ∧
        c.edits s = [.remove id, .add cells false] := by
  have haddition : ∀ batch, addition batch = [] ∨ ∃ new, addition batch = [.add new true] := by
    intro batch
    cases batch with
    | nil => exact .inl rfl
    | cons d batch => exact .inr ⟨_, rfl⟩
  have hpayload : ∀ payload, payloadEdits payload = [] ∨
      ∃ batch, payloadEdits payload = [.add batch true] := by
    intro payload
    unfold payloadEdits
    split
    · exact .inl rfl
    · exact haddition _
  have hfetch : ∀ fetched, fetchEdits fetched = [] ∨
      ∃ batch, fetchEdits fetched = [.add batch true] := by
    intro fetched
    cases fetched with
    | error e => exact .inl rfl
    | ok payload => exact hpayload payload
  have hadd : ∀ edits, (edits = [] ∨ ∃ batch, edits = [Edit.add batch true]) → edits = [] ∨
      ∃ e, edits = [e] ∧ (c = e.command ∨ ∃ batch reproject, e = .add batch reproject) := by
    rintro edits (hnone | ⟨batch, hone⟩)
    · exact .inl hnone
    · exact .inr ⟨_, hone, .inr ⟨batch, true, rfl⟩⟩
  rw [← or_assoc]
  cases c with
  | addPayload payload => exact .inl (hadd _ (hpayload payload))
  | addFetched fetched => exact .inl (hadd _ (hfetch fetched))
  | addRemote url answer => exact .inl (hadd _ (hfetch (fetchFrom answer url)))
  | addDrawn geometry => exact .inl (.inr ⟨_, rfl, .inr ⟨_, _, rfl⟩⟩)
  | addProject project => exact .inl (hadd _ (haddition _))
  | addExport text =>
    apply Or.inl
    simp only [edits, exportEdits]
    split
    · exact .inl rfl
    · exact hadd _ (haddition _)
  | subdivide id shapeName size =>
    simp only [edits]
    split
    · exact .inl (.inl rfl)
    · unfold divisionEdits
      split
      · exact .inl (.inl rfl)
      · split
        · exact .inl (.inl rfl)
        · exact .inl (.inl rfl)
        · exact .inr ⟨id, shapeName, size, _, rfl, rfl⟩
  | _ => exact .inl (.inr ⟨_, rfl, .inl rfl⟩)

/-- An edit of a command is its own, or it adds a batch, or it removes a draft that is divided. -/
theorem mem_edits_cases {s : DraftStore} {c : Command} {e : Edit} (h : e ∈ c.edits s) :
    c = e.command ∨ (∃ batch reproject, e = .add batch reproject) ∨
      ∃ id shapeName size, e = .remove id ∧ c = .subdivide id shapeName size := by
  rcases edits_cases s c with hnone | ⟨e', hone, hc⟩ | ⟨id, shapeName, size, cells, hc, htwo⟩
  · simp [hnone] at h
  · rw [hone, List.mem_singleton] at h
    subst h
    exact hc.imp_right .inl
  · rw [htwo] at h
    rcases List.mem_cons.mp h with rfl | h
    · exact .inr (.inr ⟨id, shapeName, size, rfl, hc⟩)
    · exact .inr (.inl ⟨cells, false, List.mem_singleton.mp h⟩)

/-- An edit that neither adds nor removes is made only by its own command. -/
theorem eq_command_of_mem_edits {s : DraftStore} {c : Command} {e : Edit} (h : e ∈ c.edits s)
    (hadd : ∀ batch reproject, e ≠ .add batch reproject) (hremove : ∀ id, e ≠ .remove id) :
    c = e.command := by
  rcases mem_edits_cases h with hc | ⟨batch, reproject, rfl⟩ | ⟨id, _, _, rfl, _⟩
  · exact hc
  · exact absurd rfl (hadd batch reproject)
  · exact absurd rfl (hremove id)

theorem identified_run {s : DraftStore} (h : s.Identified) (c : Command)
    (hroom : (c.run s).2.tasks.length ≤ 2 ^ 64) : (c.run s).2.Identified := by
  rw [run_eq_applyAll] at hroom ⊢
  rcases edits_cases s c with hnone | ⟨e, hone, _⟩ | ⟨id, _, _, cells, _, htwo⟩
  · rwa [hnone]
  · rw [hone] at hroom ⊢
    exact h.apply e hroom
  · rw [htwo] at hroom ⊢
    have hremoved : (Edit.apply s (.remove id)).Identified :=
      h.of_sublist (by
        rw [DraftStore.ids, Edit.apply, DraftStore.tasks_removeTask]
        exact s.ids_eraseP_sublist id)
    exact hremoved.apply (.add cells false) hroom

theorem selectionStored_run {s : DraftStore} (h : s.SelectionStored) (c : Command) :
    (c.run s).2.SelectionStored := by
  rw [run_eq_applyAll]
  generalize c.edits s = edits
  induction edits generalizing s with
  | nil => exact h
  | cons e edits ih => exact ih (h.apply e)

theorem selectionStored_runAll {s : DraftStore} (h : s.SelectionStored)
    (commands : List Command) : (runAll s commands).SelectionStored := by
  induction commands generalizing s with
  | nil => exact h
  | cons c commands ih => exact ih (selectionStored_run h c)

end Command

/-- The stores that commands lead to from the empty one, holding fewer than `2 ^ 64` drafts all
along. -/
inductive Reachable : DraftStore → Prop
  | empty : Reachable .empty
  | run {s : DraftStore} (c : Command) : Reachable s → (c.run s).2.tasks.length < 2 ^ 64 →
      Reachable (c.run s).2

theorem Reachable.identified {s : DraftStore} (h : Reachable s) : s.Identified := by
  induction h with
  | empty => exact ⟨fun _ hid => absurd hid List.not_mem_nil, List.nodup_nil⟩
  | run c _ hroom ih => exact Command.identified_run ih c hroom.le

theorem Reachable.selectionStored {s : DraftStore} (h : Reachable s) : s.SelectionStored := by
  induction h with
  | empty =>
    intro id hid
    cases hid
  | run c _ _ ih => exact Command.selectionStored_run ih c

def Edit.count : Edit → Nat
  | .add batch _ => batch.length
  | _ => 0

theorem Edit.length_apply_le (s : DraftStore) (e : Edit) :
    (e.apply s).tasks.length ≤ s.tasks.length + e.count := by
  cases e with
  | add batch reproject => simp [apply, count]
  | remove id =>
    rw [apply, DraftStore.tasks_removeTask]
    exact List.length_eraseP_le
  | rename id name => exact (s.length_rename id name).le
  | select id => simp [apply, count]
  | clear => simp [apply, count]
  | deselect => exact le_refl _
  | subscribe => exact le_refl _
  | unsubscribe number => exact le_refl _

namespace Command

/-- The number of drafts that a list of commands adds in total, those removed again included. -/
def total (s : DraftStore) : List Command → Nat
  | [] => 0
  | c :: commands => ((c.edits s).map Edit.count).sum + total (c.run s).2 commands

theorem length_run_le (s : DraftStore) (c : Command) :
    (c.run s).2.tasks.length ≤ s.tasks.length + ((c.edits s).map Edit.count).sum := by
  rw [run_eq_applyAll]
  generalize c.edits s = edits
  induction edits generalizing s with
  | nil => exact le_refl _
  | cons e edits ih =>
    have hhead := e.length_apply_le s
    have htail := ih (e.apply s)
    simp only [DraftStore.applyAll, List.foldl_cons, List.map_cons, List.sum_cons] at htail ⊢
    omega

end Command

/-- Runs that add fewer than `2 ^ 64` drafts in total lead to reachable stores. -/
theorem Reachable.runAll {s : DraftStore} (h : Reachable s) {commands : List Command}
    (htotal : s.tasks.length + Command.total s commands < 2 ^ 64) :
    Reachable (Command.runAll s commands) := by
  induction commands generalizing s with
  | nil => exact h
  | cons c commands ih =>
    have hlen := Command.length_run_le s c
    simp only [Command.total] at htotal
    rw [Command.runAll_cons]
    exact ih (.run c h (by omega)) (by omega)

/-- **Identifiers in reachable stores.** No two drafts have the same identifier, each identifier
is the decimal text of a number below `2 ^ 64` and is read as that number, and the selected draft
is a stored one. -/
theorem reachable_ids {s : DraftStore} (h : Reachable s) :
    s.ids.Nodup ∧
      (∀ t ∈ s.tasks, ∃ n, n < 2 ^ 64 ∧ t.id = toString n ∧ indexOfText? t.id = some n) ∧
      (∀ id, s.selected = some id → ∃ t ∈ s.tasks, t.id = id) ∧
      (s.selectedTask?.isSome ↔ s.selected.isSome) := by
  have hstored := h.selectionStored
  refine ⟨h.identified.nodup, ?_, ?_, ?_⟩
  · intro t ht
    obtain ⟨n, hn, hid⟩ := h.identified.canonical t.id (List.mem_map.mpr ⟨t, ht, rfl⟩)
    exact ⟨n, hn, hid, by rw [hid, indexOfText?_toString hn]⟩
  · intro id hid
    exact List.mem_map.mp (hstored id hid)
  · cases hselected : s.selected with
    | none => simp [DraftStore.selectedTask?, hselected]
    | some id =>
      simp [DraftStore.selectedTask?, hselected,
        DraftStore.find?_isSome_iff.mpr (hstored id hselected)]

/-- A text with blanks and a leading zero asks for 7, and the draft that asks for nothing gets 0. -/
theorem reachable_ids_of_selected_draft :
    let batch := [⟨some (.text " 07 "), none, .polygon [], 0⟩, .ofGeometry (.polygon [])]
    let s := Command.runAll .empty [.addTasks batch false, .select "7"]
    s.ids = ["7", "0"] ∧ s.selected = some "7" ∧
      s.ids.Nodup ∧
      (∀ t ∈ s.tasks, ∃ n, n < 2 ^ 64 ∧ t.id = toString n ∧ indexOfText? t.id = some n) ∧
      (∀ id, s.selected = some id → ∃ t ∈ s.tasks, t.id = id) ∧
      (s.selectedTask?.isSome ↔ s.selected.isSome) := by
  intro batch s
  have hs : s = ((DraftStore.empty.addTasks batch false).2.select "7").2 := rfl
  have hassign : DraftStore.empty.assignAll batch = [7, 0] := by
    have hrequests : batch.map NewDraft.index? = [some 7, none] := by decide +kernel
    rw [DraftStore.assignAll_eq_indicesFor, hrequests]
    change indicesFor [] [some 7, none] = [7, 0]
    simp only [indicesFor, freshScan, leastMissing_eq_find?]
    decide
  have hadded : (DraftStore.empty.addTasks batch false).2.ids = ["7", "0"] := by
    rw [DraftStore.ids_addTasks, hassign]
    rfl
  have hselected : s.selected = some "7" := by
    rw [hs, DraftStore.selected_select, DraftStore.selected_addTasks, if_neg (by decide), if_pos]
    rw [DraftStore.find?_isSome_iff, hadded]
    decide
  refine ⟨?_, hselected, reachable_ids (Reachable.empty.runAll ?_)⟩
  · rw [hs, DraftStore.ids, DraftStore.tasks_select]
    exact hadded
  · decide

end GeoDrafts
