import GeoDrafts.Proofs.Draft.Reachable

/-!
What adding a batch does: which identifier each draft gets, and what is stored of it.
-/

namespace GeoDrafts

namespace DraftStore

variable {s : DraftStore} {batch : List NewDraft} {reproject : Bool}

theorem getElem?_added {k : Nat} {t : TaskDraft}
    (h : (s.addTasks batch reproject).1[k]? = some t) :
    ∃ d i, batch[k]? = some d ∧ (s.assignAll batch)[k]? = some i ∧
      t = storedAs reproject d i := by
  rw [added_addTasks, List.getElem?_zipWith] at h
  cases hd : batch[k]? with
  | none => simp [hd] at h
  | some d =>
    cases hi : (s.assignAll batch)[k]? with
    | none => simp [hd, hi] at h
    | some i =>
      simp only [hd, hi, Option.some.injEq] at h
      exact ⟨d, i, rfl, rfl, h.symm⟩

theorem exists_of_mem_added {t : TaskDraft} (h : t ∈ (s.addTasks batch reproject).1) :
    ∃ d ∈ batch, ∃ i, t = storedAs reproject d i := by
  obtain ⟨k, hk⟩ := List.mem_iff_getElem?.mp h
  obtain ⟨d, i, hd, _, ht⟩ := getElem?_added hk
  exact ⟨d, List.mem_of_getElem? hd, i, ht⟩

theorem map_id_added : (s.addTasks batch reproject).1.map (·.id) =
    (s.assignAll batch).map toString := by
  rw [added_addTasks, map_id_zipWith_storedAs _ _ _ (length_assignAll s batch).symm]

theorem map_geometry_added : (s.addTasks batch reproject).1.map (·.geometry) =
    batch.map fun d => if reproject then d.geometry.toProjected else d.geometry := by
  apply List.ext_getElem?
  intro k
  rw [List.getElem?_map, List.getElem?_map]
  cases hk : (s.addTasks batch reproject).1[k]? with
  | none =>
    rw [List.getElem?_eq_none_iff, length_added] at hk
    rw [List.getElem?_eq_none hk]
    rfl
  | some t =>
    obtain ⟨d, i, hd, _, rfl⟩ := getElem?_added hk
    rw [hd]
    rfl

/-- A stored draft has the name of the new one, or its identifier if that is missing or blank. -/
theorem name_storedAs (d : NewDraft) (i : Nat) :
    (storedAs reproject d i).name =
      (d.name.filter fun name => !Text.isBlank name).getD (toString i) := by
  cases hname : d.name with
  | none => simp [storedAs, hname]
  | some name =>
    cases hblank : Text.isBlank name <;>
      simp [storedAs, hname, Text.nonBlank?, hblank, Option.filter_some]

/-- Drafts whose identifiers are the texts of indices denote these indices. -/
theorem filterMap_index_of_ids {tasks : List TaskDraft} {indices : List Nat}
    (hids : tasks.map (·.id) = indices.map toString) (hlt : ∀ i ∈ indices, i < 2 ^ 64) :
    tasks.filterMap (fun t => indexOfText? t.id) = indices :=
  calc
    _ = (tasks.map (·.id)).filterMap indexOfText? := by
      rw [List.filterMap_map]
      rfl
    _ = indices := by
      rw [hids, filterMap_indexOfText?_toString hlt]

/-- The stored identifiers, those that the batch asks for and those given so far denote what the
scan for the next draft leaves out. -/
theorem index?_before (k : Nat) (hroom : s.tasks.length + batch.length ≤ 2 ^ 64) :
    (s.tasks.map (fun t => RawId.text t.id) ++ batch.filterMap (·.id) ++
        ((s.addTasks batch reproject).1.take k).map (fun t => RawId.text t.id)).filterMap
      TaskIndex.index? =
    s.indices ++ (batch.map NewDraft.index?).filterMap id ++ (s.assignAll batch).take k := by
  have hids : ((s.addTasks batch reproject).1.take k).map (·.id) =
      ((s.assignAll batch).take k).map toString := by
    rw [List.map_take, map_id_added, List.map_take]
  rw [List.filterMap_append, List.filterMap_append]
  congr 1
  · congr 1
    · rw [List.filterMap_map]
      rfl
    · rw [List.filterMap_filterMap, List.filterMap_map]
      rfl
  · rw [List.filterMap_map]
    exact filterMap_index_of_ids hids fun i hi =>
      lt_of_mem_assignAll hroom (List.mem_of_mem_take hi)

/-- The first draft that asks for an index out of use gets it, and no other does. -/
theorem id_eq_toString_iff {i k : Nat} (hused : i ∉ s.indices)
    (hk : (batch.map NewDraft.index?)[k]? = some (some i))
    (hfirst : some i ∉ (batch.map NewDraft.index?).take k) {j : Nat} {t : TaskDraft}
    (hj : (s.addTasks batch reproject).1[j]? = some t) : t.id = toString i ↔ j = k := by
  have hkept : keptIndex? s.indices (batch.map NewDraft.index?) k = some i := by
    simp [keptIndex?, hk, hused, hfirst]
  have hgot := indicesFor_of_kept hkept
  obtain ⟨d, l, _, hl, rfl⟩ := getElem?_added hj
  rw [assignAll_eq_indicesFor] at hl
  change toString l = toString i ↔ j = k
  rw [toString_nat_inj]
  constructor
  · rintro rfl
    have hlt := (List.getElem?_eq_some_iff.mp hl).1
    exact (List.getElem?_inj hlt nodup_indicesFor).mp (hl.trans hgot.symm)
  · rintro rfl
    exact Option.some.inj (hl.symm.trans hgot)

/-! ## Batches without requests -/

/-- Drafts that ask for no index get the smallest ones out of use, in order. -/
theorem Identified.id_added (h : s.Identified) (hnone : ∀ d ∈ batch, d.index? = none) {k : Nat}
    {t : TaskDraft} (ht : (s.addTasks batch reproject).1[k]? = some t) :
    t.id = toString (Nat.nth (fun n => toString n ∉ s.ids) k) := by
  have hfree : (fun n => n ∉ s.indices) = fun n => toString n ∉ s.ids := by
    funext n
    rw [h.mem_indices_iff]
  obtain ⟨d, i, hd, hi, rfl⟩ := getElem?_added ht
  have hk : k < (batch.map NewDraft.index?).length := by
    rw [List.length_map]
    exact (List.getElem?_eq_some_iff.mp hd).1
  have hnth : (indicesFor s.indices (batch.map NewDraft.index?))[k]? =
      some (Nat.nth (fun n => n ∉ s.indices) k) :=
    indicesFor_of_no_request (List.forall_mem_map.mpr hnone) hk
  rw [← assignAll_eq_indicesFor, hi, hfree] at hnth
  exact congrArg toString (Option.some.inj hnth)

end DraftStore

/-- **Adding a batch.** The first draft that asks for an index out of use gets it. All others get,
in order, the smallest numbers that are neither in use nor asked for; while no more than `2 ^ 64`
drafts are stored, each is the smallest one that no identifier of the store, of a request or given
before denotes. The drafts are appended, and nothing else changes. -/
theorem addTasks_batch (s : DraftStore) (batch : List NewDraft) (reproject : Bool) :
    let used := s.indices
    let requests := batch.map NewDraft.index?
    let added := (s.addTasks batch reproject).1
    let after := (s.addTasks batch reproject).2
    (∀ i k, i ∉ used → requests[k]? = some (some i) → some i ∉ requests.take k →
      ∀ (j : Nat) (t : TaskDraft), added[j]? = some t → (t.id = toString i ↔ j = k)) ∧
    (∀ (k : Nat) (t : TaskDraft), added[k]? = some t → keptIndex? used requests k = none →
      t.id = toString (Nat.nth (IsFree used requests) (othersBefore used requests k)) ∧
      (s.tasks.length + batch.length ≤ 2 ^ 64 →
        t.id = leastMissingText (s.tasks.map (fun t => RawId.text t.id) ++
          batch.filterMap (·.id) ++ (added.take k).map fun t => RawId.text t.id))) ∧
    after.tasks = s.tasks ++ added ∧ after.selected = s.selected ∧ added.length = batch.length ∧
    ∀ (k : Nat) (d : NewDraft) (t : TaskDraft), batch[k]? = some d → added[k]? = some t →
      t.name = (d.name.filter fun name => !Text.isBlank name).getD t.id ∧
      t.geometry = (if reproject then d.geometry.toProjected else d.geometry) ∧
      t.processPoints = d.processPoints := by
  intro used requests added after
  refine ⟨fun i k hused hk hfirst j t hj => DraftStore.id_eq_toString_iff hused hk hfirst hj, ?_,
    s.tasks_addTasks batch reproject, s.selected_addTasks batch reproject,
    s.length_added batch reproject, ?_⟩
  · intro k t ht hother
    obtain ⟨d, i, hd, hi, rfl⟩ := DraftStore.getElem?_added ht
    rw [DraftStore.assignAll_eq_indicesFor] at hi
    have hk : k < requests.length := by
      rw [List.length_map]
      exact (List.getElem?_eq_some_iff.mp hd).1
    constructor
    · have hnth := indicesFor_of_other hk hother
      rw [hi] at hnth
      exact congrArg toString (Option.some.inj hnth)
    · intro hroom
      have hleast : (indicesFor used requests)[k]? = _ := indicesFor_getElem?_kept k
      rw [hi, hother, List.getElem?_eq_getElem hk] at hleast
      rw [leastMissingText, DraftStore.index?_before k hroom, DraftStore.assignAll_eq_indicesFor]
      exact congrArg toString (Option.some.inj hleast)
  · intro k d t hd ht
    obtain ⟨d', i, hd', _, rfl⟩ := DraftStore.getElem?_added ht
    obtain rfl : d = d' := Option.some.inj (hd.symm.trans hd')
    exact ⟨DraftStore.name_storedAs d i, rfl, rfl⟩

/-- Numbers and texts that denote indices are kept, also a zero at the end of the batch, and the
drafts without one get 1, 2 and 3. -/
theorem addTasks_batch_mixed :
    let ask (id : Option RawId) : NewDraft := ⟨id, none, .polygon [], 0⟩
    let batch := [ask (some (.number 10.0)), ask (some (.text "5")), ask (some (.text "one")),
      ask none, ask none, ask (some (.number 0.0))]
    let added := (DraftStore.empty.addTasks batch false).1
    added.map (·.id) = ["10", "5", "1", "2", "3", "0"] ∧
      ∀ t, added[4]? = some t →
        t.id = leastMissingText (batch.filterMap (·.id) ++
          (added.take 4).map fun t => RawId.text t.id) := by
  intro ask batch added
  have hrequests : batch.map NewDraft.index? = [some 10, some 5, none, none, none, some 0] := by
    decide +kernel
  constructor
  · have hindices : indicesFor [] [some 10, some 5, none, none, none, some 0] =
        [10, 5, 1, 2, 3, 0] := by
      simp only [indicesFor, freshScan, leastMissing_eq_find?]
      decide
    rw [DraftStore.map_id_added, DraftStore.assignAll_eq_indicesFor, hrequests]
    exact congrArg (List.map toString) hindices
  · intro t ht
    have hother : keptIndex? DraftStore.empty.indices (batch.map NewDraft.index?) 4 = none := by
      rw [hrequests]
      rfl
    have hroom : DraftStore.empty.tasks.length + batch.length ≤ 2 ^ 64 := by
      change 6 ≤ 2 ^ 64
      omega
    exact ((addTasks_batch DraftStore.empty batch false).2.1 4 t ht hother).2 hroom

end GeoDrafts
