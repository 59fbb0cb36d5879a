import GeoDrafts.Proofs.Draft.Batch

/-!
Dividing all drafts of a store. The drafts that are still to be divided stand before the cells made
so far, and in the order in which their turn comes. So the first draft with the next identifier is
the next original draft, whichever identifiers the cells got, and no cell is divided.
-/

namespace GeoDrafts

/-- A list of drafts holds the grid cells of a draft, in order. They are named by their identifiers
and have no process points. -/
structure IsDivision (shape : GridShape) (size : Float) (t : TaskDraft) (cells : List TaskDraft) :
    Prop where
  geometry : Grid.cells t.geometry shape size = .ok (cells.map (·.geometry))
  ne_nil : cells ≠ []
  name : ∀ c ∈ cells, c.name = c.id
  processPoints : ∀ c ∈ cells, c.processPoints = 0

def divisionError? (shape : GridShape) (size : Float) (t : TaskDraft) : Option DraftError :=
  match Grid.cells t.geometry shape size with
  | .error cause => some (.invalidBatchInput cause)
  | .ok [] => some .noUsableGeometry
  | .ok _ => none

namespace DraftStore

/-- The drafts that are divided when `subdivideEach` goes through some identifiers. -/
def dividedBy (shape : GridShape) (size : Float) : List String → DraftStore → List TaskDraft
  | [], _ => []
  | id :: ids, s =>
    match s.subdivide id shape size with
    | (.error _, _) => []
    | (.ok _, after) => (s.find? id).toList ++ dividedBy shape size ids after

variable {s : DraftStore} {shape : GridShape} {size : Float}

/-! ## One draft -/

/-- Geometries that are added on their own are stored in order, and nothing else with them. -/
theorem isDivision_added {t : TaskDraft} {areas : List PolygonGeometry}
    (hareas : Grid.cells t.geometry shape size = .ok areas) (hne : areas ≠ []) :
    IsDivision shape size t (s.addTasks (areas.map .ofGeometry) false).1 := by
  have hlength : (s.addTasks (areas.map .ofGeometry) false).1.length = areas.length := by
    rw [length_added, List.length_map]
  refine ⟨?_, ?_, ?_, ?_⟩
  · rw [hareas, map_geometry_added, List.map_map]
    exact congrArg _ (List.map_id' areas).symm
  · exact fun hnil => hne (List.length_eq_zero_iff.mp (by rw [← hlength, hnil]; rfl))
  · intro c hc
    obtain ⟨d, hd, i, rfl⟩ := exists_of_mem_added hc
    obtain ⟨g, _, rfl⟩ := List.mem_map.mp hd
    rfl
  · intro c hc
    obtain ⟨d, hd, i, rfl⟩ := exists_of_mem_added hc
    obtain ⟨g, _, rfl⟩ := List.mem_map.mp hd
    rfl

theorem subdivide_of_error {id : String} {t : TaskDraft} {e : DraftError}
    (hfind : s.find? id = some t) (herror : divisionError? shape size t = some e) :
    s.subdivide id shape size = (.error e, s) := by
  unfold divisionError? at herror
  simp only [subdivide, hfind]
  cases hcells : Grid.cells t.geometry shape size with
  | error cause =>
    simp only [hcells, Option.some.injEq] at herror ⊢
    rw [herror]
  | ok areas =>
    cases areas with
    | nil =>
      simp only [hcells, Option.some.injEq] at herror ⊢
      rw [herror]
    | cons area areas => simp [hcells] at herror

/-- What is left of a draft that can be divided are its cells, at the end of the store. -/
theorem subdivide_of_find? {id : String} {t : TaskDraft} (hfind : s.find? id = some t)
    (hdivisible : divisionError? shape size t = none) :
    ∃ cells after, s.subdivide id shape size = (.ok cells, after) ∧
      IsDivision shape size t cells ∧
      after.tasks = (s.tasks.eraseP fun t => t.id == id) ++ cells ∧
      after.selected = if s.selected = some id then none else s.selected := by
  unfold divisionError? at hdivisible
  cases hcells : Grid.cells t.geometry shape size with
  | error cause => simp [hcells] at hdivisible
  | ok areas =>
    cases areas with
    | nil => simp [hcells] at hdivisible
    | cons area areas =>
      let removed := (s.removeTask id).2
      refine ⟨_, (removed.addTasks ((area :: areas).map .ofGeometry) false).2, ?_,
        isDivision_added (s := removed) hcells (List.cons_ne_nil _ _), ?_, ?_⟩
      · simp only [subdivide, hfind, hcells, removed]
      · rw [tasks_addTasks, tasks_removeTask]
      · rw [selected_addTasks, selected_removeTask hfind]

theorem selected_subdivide {id : String} {cells : List TaskDraft} {after : DraftStore}
    (h : s.subdivide id shape size = (.ok cells, after)) :
    after.selected = if s.selected = some id then none else s.selected := by
  cases hfind : s.find? id with
  | none => simp [subdivide, hfind] at h
  | some t =>
    cases hdivisible : divisionError? shape size t with
    | some e =>
      rw [subdivide_of_error hfind hdivisible] at h
      cases h
    | none =>
      obtain ⟨_, _, hstep, -, -, hselected⟩ := subdivide_of_find? hfind hdivisible
      rw [hstep] at h
      cases h
      exact hselected

/-! ## One after another -/

variable (shape size) in
/-- **The loop.** The drafts to be divided stand before all others, so each turn takes the first
draft of the store and puts its cells behind the last. -/
theorem subdivideEach_pending (pending : List TaskDraft) {others : List TaskDraft}
    (htasks : s.tasks = pending ++ others) :
    match subdivideEach shape size (pending.map (·.id)) s with
    | (.ok count, after) =>
      ∃ blocks, List.Forall₂ (IsDivision shape size) pending blocks ∧
        after.tasks = others ++ blocks.flatten ∧ count = blocks.flatten.length ∧
        dividedBy shape size (pending.map (·.id)) s = pending
    | (.error e, after) =>
      ∃ done t rest blocks, pending = done ++ t :: rest ∧
        divisionError? shape size t = some e ∧
        List.Forall₂ (IsDivision shape size) done blocks ∧
        after.tasks = t :: rest ++ others ++ blocks.flatten ∧
        dividedBy shape size (pending.map (·.id)) s = done := by
  induction pending generalizing s others with
  | nil => exact ⟨[], .nil, by simpa using htasks, rfl, rfl⟩
  | cons t pending ih =>
    have hfind : s.find? t.id = some t := by simp [find?, htasks]
    cases hdivisible : divisionError? shape size t with
    | some e =>
      have hstep := subdivide_of_error hfind hdivisible
      simp only [List.map_cons, subdivideEach, dividedBy, hstep]
      exact ⟨[], t, pending, [], rfl, hdivisible, .nil, by simpa using htasks, rfl⟩
    | none =>
      obtain ⟨cells, next, hstep, hcells, hnext, -⟩ := subdivide_of_find? hfind hdivisible
      have hqueue : next.tasks = pending ++ (others ++ cells) := by
        rw [hnext, htasks, List.cons_append, List.eraseP_cons_of_pos (by simp), List.append_assoc]
      have hrest := ih hqueue
      simp only [List.map_cons, subdivideEach, dividedBy, hstep, hfind]
      cases hlast : subdivideEach shape size (pending.map (·.id)) next with
      | mk result last =>
      rw [hlast] at hrest
      cases result with
      | ok count =>
        obtain ⟨blocks, hblocks, hlasts, rfl, hdivided⟩ := hrest
        exact ⟨cells :: blocks, .cons hcells hblocks, by simp [hlasts], by simp,
          congrArg (t :: ·) hdivided⟩
      | error e =>
        obtain ⟨done, u, rest, blocks, rfl, herror, hblocks, hlasts, hdivided⟩ := hrest
        exact ⟨t :: done, u, rest, cells :: blocks, rfl, herror, .cons hcells hblocks,
          by simp [hlasts], congrArg (t :: ·) hdivided⟩

/-- Whatever is selected after all divisions was selected before and has not been divided. -/
theorem selected_subdivideEach {ids : List String} {count : Nat} {after : DraftStore}
    (h : subdivideEach shape size ids s = (.ok count, after)) {id : String}
    (hselected : after.selected = some id) : s.selected = some id ∧ id ∉ ids := by
  induction ids generalizing s count with
  | nil =>
    cases h
    exact ⟨hselected, List.not_mem_nil⟩
  | cons first ids ih =>
    unfold subdivideEach at h
    split at h
    · cases h
    · rename_i cells next hstep
      cases hlast : subdivideEach shape size ids next with
      | mk result last =>
      simp only [hlast] at h
      cases result with
      | error e => cases h
      | ok rest =>
        cases h
        obtain ⟨hnext, hout⟩ := ih hlast
        rw [selected_subdivide hstep] at hnext
        split at hnext
        · cases hnext
        · rename_i hne
          refine ⟨hnext, ?_⟩
          simp only [List.mem_cons, not_or]
          exact ⟨fun heq => hne (heq ▸ hnext), hout⟩

end DraftStore

/-- **Dividing all drafts.** If all of them can be divided, the store holds the cells of the first
one, of the second one and so on, their number is returned, and nothing is selected. Otherwise the
first one that cannot be divided and all behind it are left as they were, the cells of those
before it follow, and the error is its own. No draft is divided twice, and no cell is. -/
theorem subdivideAll_divides_each_once (commands : List Command) (shape : GridShape)
    (size : Float) :
    let s := Command.runAll .empty commands
    let divided := DraftStore.dividedBy shape size (s.tasks.map (·.id)) s
    match s.subdivideAll shape size none with
    | (.ok count, after) =>
      ∃ blocks, List.Forall₂ (IsDivision shape size) s.tasks blocks ∧
        after.tasks = blocks.flatten ∧ count = after.tasks.length ∧ after.selected = none ∧
        divided = s.tasks
    | (.error e, after) =>
      ∃ done t rest blocks, s.tasks = done ++ t :: rest ∧
        divisionError? shape size t = some e ∧
        List.Forall₂ (IsDivision shape size) done blocks ∧
        after.tasks = t :: rest ++ blocks.flatten ∧ divided = done := by
  intro s divided
  have hloop := DraftStore.subdivideEach_pending shape size s.tasks
    (List.append_nil s.tasks).symm
  have hstored : s.SelectionStored :=
    Command.selectionStored_runAll (fun id hid => by cases hid) commands
  rw [DraftStore.subdivideAll]
  cases hall : DraftStore.subdivideEach shape size (s.tasks.map (·.id)) s with
  | mk result after =>
  rw [hall] at hloop
  cases result with
  | ok count =>
    obtain ⟨blocks, hblocks, htasks, hcount, hdivided⟩ := hloop
    rw [List.nil_append] at htasks
    refine ⟨blocks, hblocks, htasks, by rw [hcount, htasks], ?_, hdivided⟩
    rw [Option.eq_none_iff_forall_ne_some]
    intro id hid
    obtain ⟨hbefore, hout⟩ := DraftStore.selected_subdivideEach hall hid
    exact hout (hstored id hbefore)
  | error e =>
    obtain ⟨done, t, rest, blocks, hsplit, herror, hblocks, htasks, hdivided⟩ := hloop
    rw [List.append_nil] at htasks
    exact ⟨done, t, rest, blocks, hsplit, herror, hblocks, htasks, hdivided⟩

/-- Two fields of ten by ten have four cells of five by five each, and are both divided. -/
theorem subdivideAll_of_two_fields :
    let field (x : Float) : PolygonGeometry :=
      .ofRing [⟨x, 0.0⟩, ⟨x + 10.0, 0.0⟩, ⟨x + 10.0, 10.0⟩, ⟨x, 10.0⟩, ⟨x, 0.0⟩]
    let batch := [NewDraft.ofGeometry (field 0.0), NewDraft.ofGeometry (field 100.0)]
    let s := Command.runAll .empty [.addTasks batch false]
    (s.subdivideAll .square 5.0 none).1 = .ok 8 ∧
      DraftStore.dividedBy .square 5.0 (s.tasks.map (·.id)) s = s.tasks := by
  intro field batch s
  have htasks : s.tasks = [⟨"0", "0", field 0.0, 0⟩, ⟨"1", "1", field 100.0, 0⟩] := by
    have hassign : DraftStore.empty.assignAll batch = [0, 1] := by
      rw [DraftStore.assignAll_eq_indicesFor]
      decide +kernel
    change (DraftStore.empty.addTasks batch false).1 = _
    rw [DraftStore.added_addTasks, hassign]
    rfl
  have hcells : ∀ t ∈ s.tasks, divisionError? .square 5.0 t = none ∧
      (Grid.cells t.geometry .square 5.0).map List.length = .ok 4 := by
    rw [htasks]
    decide +kernel
  have hfour : ∀ t ∈ s.tasks, ∀ cells, IsDivision .square 5.0 t cells → cells.length = 4 := by
    intro t ht cells h
    simpa [h.geometry, Except.map] using (hcells t ht).2
  have hall := subdivideAll_divides_each_once [.addTasks batch false] .square 5.0
  dsimp only at hall
  split at hall
  · rename_i count after hresult
    obtain ⟨blocks, hblocks, hafter, hcount, -, hdivided⟩ := hall
    refine ⟨?_, hdivided⟩
    have hlength : after.tasks.length = 8 := by
      change List.Forall₂ _ s.tasks _ at hblocks
      rw [htasks] at hblocks hfour
      obtain ⟨first, blocks, hfirst, hrest, rfl⟩ := List.forall₂_cons_left_iff.mp hblocks
      obtain ⟨second, blocks, hsecond, hnil, rfl⟩ := List.forall₂_cons_left_iff.mp hrest
      obtain rfl := List.forall₂_nil_left_iff.mp hnil
      rw [hafter]
      simp [hfour _ List.mem_cons_self _ hfirst,
        hfour _ (List.mem_cons_of_mem _ List.mem_cons_self) _ hsecond]
    exact (congrArg Prod.fst hresult).trans (by rw [hcount, hlength])
  · obtain ⟨done, t, rest, _, hsplit, herror, -⟩ := hall
    have ht : t ∈ s.tasks := hsplit ▸ List.mem_append_right done List.mem_cons_self
    rw [(hcells t ht).1] at herror
    cases herror

end GeoDrafts
