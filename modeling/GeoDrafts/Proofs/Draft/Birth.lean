import GeoDrafts.Proofs.Draft.Reachable

/-!
Birth marks. Identifiers are used again, so they do not tell one draft from a later one. Here each
stored draft carries the number of drafts that were added before it. No two drafts of a run have
the same mark, and the drafts of a store stand in the order of their marks. The marks are kept
beside the store: they follow its changes and have no influence on them.
-/

namespace GeoDrafts

/-- A store, and the birth marks of its drafts in their order. -/
structure MarkedStore where
  store : DraftStore
  births : List Nat
  /-- The number of drafts that have been added, those removed again included. -/
  added : Nat

namespace MarkedStore

def empty : MarkedStore := ⟨.empty, [], 0⟩

/-- Only adding and removing change the marks. A new draft is marked with the number of drafts
added before it. -/
def apply (m : MarkedStore) (e : Edit) : MarkedStore where
  store := e.apply m.store
  births :=
    match e with
    | .add batch _ => m.births ++ List.range' m.added batch.length
    | .remove id => m.births.eraseIdx (m.store.tasks.findIdx fun t => t.id == id)
    | .clear => []
    | _ => m.births
  added := m.added + e.count

def applyAll (m : MarkedStore) (edits : List Edit) : MarkedStore := edits.foldl apply m

def run (m : MarkedStore) (c : Command) : MarkedStore := m.applyAll (c.edits m.store)

def runAll (m : MarkedStore) (commands : List Command) : MarkedStore := commands.foldl run m

def drafts (m : MarkedStore) : List (Nat × TaskDraft) := m.births.zip m.store.tasks

def birth? (m : MarkedStore) (id : String) : Option Nat :=
  (m.drafts.find? fun d => d.2.id == id).map (·.1)

/-! ## Beside the store -/

@[simp]
theorem store_apply (m : MarkedStore) (e : Edit) : (m.apply e).store = e.apply m.store := rfl

@[simp]
theorem store_applyAll (m : MarkedStore) (edits : List Edit) :
    (m.applyAll edits).store = m.store.applyAll edits := by
  induction edits generalizing m with
  | nil => rfl
  | cons e edits ih => exact ih (m.apply e)

@[simp]
theorem store_run (m : MarkedStore) (c : Command) : (m.run c).store = (c.run m.store).2 := by
  rw [run, store_applyAll, Command.run_eq_applyAll]

@[simp]
theorem store_runAll (m : MarkedStore) (commands : List Command) :
    (m.runAll commands).store = Command.runAll m.store commands := by
  induction commands generalizing m with
  | nil => rfl
  | cons c commands ih =>
    rw [Command.runAll_cons, ← store_run]
    exact ih (m.run c)

theorem runAll_append (m : MarkedStore) (before after : List Command) :
    m.runAll (before ++ after) = (m.runAll before).runAll after := List.foldl_append

/-! ## The marks after an edit -/

/-- Every draft has a mark, the marks increase, and all of them have been used. -/
structure Consistent (m : MarkedStore) : Prop where
  length : m.births.length = m.store.tasks.length
  increasing : m.births.Pairwise (· < ·)
  lt_added : ∀ b ∈ m.births, b < m.added

private theorem zip_eraseIdx_eraseP {α β : Type} (p : β → Bool) (as : List α) (bs : List β) :
    (as.eraseIdx (bs.findIdx p)).zip (bs.eraseP p) = (as.zip bs).eraseP fun d => p d.2 := by
  induction bs generalizing as with
  | nil => simp
  | cons b bs ih =>
    cases as with
    | nil => simp
    | cons a as => cases hb : p b <;> simp [List.findIdx_cons, hb, ih]

/-- The mark of a draft is found by the identifiers alone. -/
theorem birth?_eq (m : MarkedStore) (id : String) :
    m.birth? id = ((m.births.zip m.store.ids).find? fun d => d.2 == id).map (·.1) := by
  rw [birth?, drafts, DraftStore.ids, List.zip_map_right, List.find?_map, Option.map_map]
  rfl

theorem mem_of_birth? {m : MarkedStore} {id : String} {b : Nat} (h : m.birth? id = some b) :
    b ∈ m.births ∧ id ∈ m.store.ids := by
  rw [birth?_eq] at h
  obtain ⟨d, hd, rfl⟩ := Option.map_eq_some_iff.mp h
  obtain ⟨hbirth, hmem⟩ := List.of_mem_zip (List.mem_of_find?_eq_some hd)
  have hid : d.2 = id := by simpa using List.find?_some hd
  exact ⟨hbirth, hid ▸ hmem⟩

theorem Consistent.exists_birth?_eq {m : MarkedStore} (h : m.Consistent) {id : String}
    (hid : id ∈ m.store.ids) : ∃ b, m.birth? id = some b := by
  have hlength : m.store.ids.length ≤ m.births.length := by
    rw [DraftStore.ids, List.length_map, h.length]
  rw [← List.map_snd_zip hlength] at hid
  obtain ⟨d, hd, rfl⟩ := List.mem_map.mp hid
  rw [birth?_eq, ← Option.isSome_iff_exists, Option.isSome_map, List.find?_isSome]
  exact ⟨d, hd, beq_self_eq_true _⟩

theorem drafts_remove (m : MarkedStore) (id : String) :
    (m.apply (.remove id)).drafts = m.drafts.eraseP fun d => d.2.id == id := by
  rw [drafts, store_apply, Edit.apply, DraftStore.tasks_removeTask]
  exact zip_eraseIdx_eraseP _ _ _

theorem drafts_add {m : MarkedStore} (h : m.births.length = m.store.tasks.length)
    (batch : List NewDraft) (reproject : Bool) :
    (m.apply (.add batch reproject)).drafts = m.drafts ++
      (List.range' m.added batch.length).zip (m.store.addTasks batch reproject).1 := by
  rw [drafts, store_apply, Edit.apply, DraftStore.tasks_addTasks]
  exact List.zip_append h

private theorem length_eraseP_eq {α : Type} (p : α → Bool) (l : List α) :
    (l.eraseP p).length = (l.eraseIdx (l.findIdx p)).length := by
  induction l with
  | nil => rfl
  | cons a l ih => cases ha : p a <;> simp [List.findIdx_cons, ha, ih]

theorem consistent_empty : empty.Consistent :=
  ⟨rfl, List.Pairwise.nil, fun _ hb => absurd hb List.not_mem_nil⟩

theorem Consistent.apply {m : MarkedStore} (h : m.Consistent) (e : Edit) :
    (m.apply e).Consistent := by
  have hkept : ∀ e : Edit, (m.apply e).births = m.births →
      (e.apply m.store).tasks.length = m.store.tasks.length → (m.apply e).Consistent := by
    intro e hbirths htasks
    refine ⟨by rw [hbirths, store_apply, htasks, h.length], hbirths ▸ h.increasing, ?_⟩
    intro b hb
    rw [hbirths] at hb
    exact Nat.lt_add_right e.count (h.lt_added b hb)
  cases e with
  | add batch reproject =>
    refine ⟨?_, ?_, ?_⟩
    · simp [MarkedStore.apply, Edit.apply, h.length]
    · refine List.pairwise_append.mpr ⟨h.increasing, List.pairwise_lt_range' 1, ?_⟩
      intro b hb new hnew
      exact (h.lt_added b hb).trans_le (List.mem_range'_1.mp hnew).1
    · intro b hb
      change b < m.added + batch.length
      rcases List.mem_append.mp hb with hold | hnew
      · exact Nat.lt_add_right _ (h.lt_added b hold)
      · exact (List.mem_range'_1.mp hnew).2
  | remove id =>
    have hsub : (m.apply (.remove id)).births.Sublist m.births := List.eraseIdx_sublist _ _
    refine ⟨?_, h.increasing.sublist hsub, ?_⟩
    · rw [store_apply, Edit.apply, DraftStore.tasks_removeTask, length_eraseP_eq,
        List.length_eraseIdx, MarkedStore.apply, List.length_eraseIdx, h.length]
    · exact fun b hb => h.lt_added b (hsub.subset hb)
  | rename id name => exact hkept _ rfl (m.store.length_rename id name)
  | select id => exact hkept _ rfl (by rw [Edit.apply, DraftStore.tasks_select])
  | deselect => exact hkept _ rfl rfl
  | clear =>
    refine ⟨?_, List.Pairwise.nil, fun _ hb => absurd hb List.not_mem_nil⟩
    rw [store_apply, Edit.apply, DraftStore.tasks_clear]
    rfl
  | subscribe => exact hkept _ rfl rfl
  | unsubscribe number => exact hkept _ rfl rfl

theorem Consistent.applyAll {m : MarkedStore} (h : m.Consistent) (edits : List Edit) :
    (m.applyAll edits).Consistent := by
  induction edits generalizing m with
  | nil => exact h
  | cons e edits ih => exact ih (h.apply e)

theorem Consistent.runAll {m : MarkedStore} (h : m.Consistent) (commands : List Command) :
    (m.runAll commands).Consistent := by
  induction commands generalizing m with
  | nil => exact h
  | cons c commands ih => exact ih (h.applyAll _)

end MarkedStore
end GeoDrafts
