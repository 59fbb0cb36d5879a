import GeoDrafts.Proofs.Draft.Division
import GeoDrafts.Proofs.Draft.Replay

/-!
Replacing one draft by its cells. Cells ask for no index, so they get the smallest ones that the
remaining drafts leave free, that of the divided draft among them.
-/

namespace GeoDrafts

namespace DraftStore

variable {s : DraftStore}

/-- A division that succeeds removes the draft and adds its cells. -/
theorem exists_of_subdivide {id : String} {shape : GridShape} {size : Float}
    {cells : List TaskDraft} {after : DraftStore}
    (h : s.subdivide id shape size = (.ok cells, after)) :
    ∃ t areas, s.find? id = some t ∧ Grid.cells t.geometry shape size = .ok areas ∧ areas ≠ [] ∧
      cells = ((s.removeTask id).2.addTasks (areas.map .ofGeometry) false).1 ∧
      after = ((s.removeTask id).2.addTasks (areas.map .ofGeometry) false).2 := by
  unfold subdivide at h
  split at h
  · cases h
  · rename_i t hfind
    split at h
    · cases h
    · cases h
    · rename_i areas hne hareas
      cases h
      exact ⟨t, areas, hfind, hareas, hne, rfl, rfl⟩

end DraftStore

/-- **Dividing a draft.** The draft is gone and the others stay as they are. Behind them come the
grid cells, in their order and with the smallest indices that the others leave free; the index of
the divided draft is one of these again. A selection of the divided draft is cleared, and any other
stays. Every subscriber receives the removal and then the cells, and nothing else. -/
theorem subdivide_replaces_draft {s : DraftStore} (h : Reachable s) {id : String}
    {shape : GridShape} {size : Float} {cells : List TaskDraft} {after : DraftStore}
    (hok : s.subdivide id shape size = (.ok cells, after)) :
    ∃ front t back, s.tasks = front ++ t :: back ∧ t.id = id ∧
      Grid.cells t.geometry shape size = .ok (cells.map (·.geometry)) ∧
      after.tasks = front ++ back ++ cells ∧
      (∀ c ∈ cells, c.processPoints = 0 ∧ c.name = c.id) ∧
      (∀ (k : Nat) (c : TaskDraft), cells[k]? = some c →
        c.id = toString (Nat.nth (fun n => ∀ other ∈ front ++ back, other.id ≠ toString n) k)) ∧
      (∀ other ∈ front ++ back, other.id ≠ id) ∧
      after.selected = (if s.selected = some id then none else s.selected) ∧
      ∀ number, s.Delivered after number [.removed id, .added cells] False := by
  obtain ⟨t, areas, hfind, hareas, hne, rfl, rfl⟩ := DraftStore.exists_of_subdivide hok
  obtain ⟨front, back, hsplit, hrest⟩ := DraftStore.exists_split_of_find? hfind
  obtain ⟨hmem, rfl⟩ := DraftStore.mem_ids_of_find? hfind
  have hdivision := DraftStore.isDivision_added (s := (s.removeTask t.id).2) hareas hne
  refine ⟨front, t, back, hsplit, rfl, hdivision.geometry, ?_,
    fun c hc => ⟨hdivision.processPoints c hc, hdivision.name c hc⟩, ?_,
    h.identified.ne_of_mem_others hsplit, ?_, ?_⟩
  · rw [DraftStore.tasks_addTasks, hrest]
  · intro k c hc
    have hnone : ∀ d ∈ areas.map NewDraft.ofGeometry, d.index? = none :=
      List.forall_mem_map.mpr fun _ _ => rfl
    have hfree : (fun n : Nat => toString n ∉ (s.removeTask t.id).2.ids) =
        fun n => ∀ other ∈ front ++ back, other.id ≠ toString n := by
      funext n
      rw [DraftStore.ids, hrest, List.mem_map, not_exists]
      simp
    rw [(h.identified.removeTask t.id).id_added hnone hc, hfree]
  · rw [DraftStore.selected_addTasks, DraftStore.selected_removeTask hfind]
  · intro number
    have hbatch : areas.map NewDraft.ofGeometry ≠ [] :=
      fun hnil => hne (List.map_eq_nil_iff.mp hnil)
    have hid : t.id ∈ s.ids := List.mem_map_of_mem hmem
    have hremoved := DraftStore.delivered_removeTask h.connected hid number
    have hconnected : (s.removeTask t.id).2.Connected := h.connected.apply (.remove t.id)
    simpa using hremoved.trans (DraftStore.delivered_addTasks hconnected hbatch false number)

/-- The first of two fields is selected and divided into four cells. The first of these gets its
index and the second the one after that of the other field; nothing is selected. -/
theorem subdivide_replaces_selected_field :
    let field (x : Float) : PolygonGeometry :=
      .ofRing [⟨x, 0.0⟩, ⟨x + 10.0, 0.0⟩, ⟨x + 10.0, 10.0⟩, ⟨x, 10.0⟩, ⟨x, 0.0⟩]
    let batch := [NewDraft.ofGeometry (field 0.0), NewDraft.ofGeometry (field 100.0)]
    let s := Command.runAll .empty [.addTasks batch false, .select "0"]
    ∃ first second third fourth after,
      s.subdivide "0" .square 5.0 = (.ok [first, second, third, fourth], after) ∧
      s.selected = some "0" ∧ after.selected = none ∧
      after.tasks = [⟨"1", "1", field 100.0, 0⟩, first, second, third, fourth] ∧
      first.id = "0" ∧ second.id = "2" := by
  intro field batch s
  have hs : s = ((DraftStore.empty.addTasks batch false).2.select "0").2 := rfl
  have hadded : (DraftStore.empty.addTasks batch false).2.tasks =
      [⟨"0", "0", field 0.0, 0⟩, ⟨"1", "1", field 100.0, 0⟩] := by
    have hassign : DraftStore.empty.assignAll batch = [0, 1] := by
      rw [DraftStore.assignAll_eq_indicesFor]
      decide +kernel
    rw [DraftStore.tasks_addTasks, DraftStore.added_addTasks, hassign]
    rfl
  have htasks : s.tasks = [⟨"0", "0", field 0.0, 0⟩, ⟨"1", "1", field 100.0, 0⟩] := by
    rw [hs, DraftStore.tasks_select, hadded]
  have hselected : s.selected = some "0" := by
    rw [hs, DraftStore.selected_select, DraftStore.selected_addTasks, if_neg (by decide), if_pos]
    rw [DraftStore.find?, hadded]
    rfl
  have hfind : s.find? "0" = some ⟨"0", "0", field 0.0, 0⟩ := by
    rw [DraftStore.find?, htasks]
    rfl
  have hdivisible : divisionError? .square 5.0 ⟨"0", "0", field 0.0, 0⟩ = none := by
    decide +kernel
  obtain ⟨cells, after, hok, hdivision, herased, -⟩ :=
    DraftStore.subdivide_of_find? hfind hdivisible
  obtain ⟨front, t, back, -, -, -, hafter, -, hids, -, hcleared, -⟩ :=
    subdivide_replaces_draft (Reachable.empty.runAll (by decide)) hok
  have hothers : front ++ back = [⟨"1", "1", field 100.0, 0⟩] := by
    refine List.append_cancel_right (hafter.symm.trans (herased.trans ?_))
    rw [htasks]
    rfl
  have hlength : cells.length = 4 := by
    have hfour : (Grid.cells (field 0.0) .square 5.0).map List.length = .ok 4 := by decide +kernel
    rw [hdivision.geometry] at hfour
    simpa [Except.map] using hfour
  obtain ⟨first, second, third, fourth, rfl⟩ : ∃ first second third fourth,
      cells = [first, second, third, fourth] := by
    obtain _ | ⟨first, _ | ⟨second, _ | ⟨third, _ | ⟨fourth, _ | ⟨fifth, rest⟩⟩⟩⟩⟩ := cells <;>
      simp at hlength
    exact ⟨first, second, third, fourth, rfl⟩
  have hfree : (fun n : Nat => ∀ other ∈ front ++ back, other.id ≠ toString n) =
      fun n => n ≠ 1 := by
    funext n
    have hone : "1" = toString n ↔ n = 1 := by
      rw [show "1" = toString 1 from rfl, toString_nat_inj, eq_comm]
    simp only [hothers, List.forall_mem_singleton, ne_eq, hone]
  rw [hfree] at hids
  refine ⟨first, second, third, fourth, after, hok, hselected, ?_, ?_, ?_, ?_⟩
  · rw [hcleared, if_pos hselected]
  · rw [hafter, hothers]
    rfl
  · have hzero : Nat.nth (fun n => n ≠ 1) 0 = 0 :=
      Nat.nth_count (p := (· ≠ 1)) (n := 0) (by decide)
    rw [hids 0 first rfl, hzero]
    rfl
  · have htwo : Nat.nth (fun n => n ≠ 1) 1 = 2 := Nat.nth_count (p := (· ≠ 1)) (n := 2) (by decide)
    rw [hids 1 second rfl, htwo]
    rfl

end GeoDrafts
