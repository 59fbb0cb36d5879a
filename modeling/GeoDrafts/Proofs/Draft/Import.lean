import GeoDrafts.Proofs.Draft.Loading

/-!
Importing a project. The areas of its tasks form one batch that asks for no identifier, so what a
task contributes is a run of drafts in the place of the task, and a task without areas contributes
none.
-/

namespace GeoDrafts

/-- The draft is what is stored of an area of a task. -/
structure TaskDraft.Imports (task : TaskExport) (area : PolygonFeature) (t : TaskDraft) : Prop where
  geometry : t.geometry = area.geometry.toProjected
  processPoints : t.processPoints = task.processPoints
  name : t.name = if Text.isBlank task.name then t.id else task.name

def TaskExport.drafts (t : TaskExport) : List NewDraft :=
  t.polygonFeatures.map fun f => ⟨none, some t.name, f.geometry, t.processPoints⟩

/-- What relates to a concatenation falls into parts, which relate to what was concatenated. -/
theorem exists_blocks_of_flatMap {α β γ : Type} {R : β → γ → Prop} {f : α → List β} {l : List α}
    {m : List γ} (h : List.Forall₂ R (l.flatMap f) m) :
    ∃ blocks, m = blocks.flatten ∧
      List.Forall₂ (fun a block => List.Forall₂ R (f a) block) l blocks := by
  induction l generalizing m with
  | nil => exact ⟨[], by simpa using h, .nil⟩
  | cons a l ih =>
    have hsplit := h.flip
    rw [List.flatMap_cons] at hsplit
    have hhead := (List.forall₂_take_append _ _ _ hsplit).flip
    have htail := (List.forall₂_drop_append _ _ _ hsplit).flip
    obtain ⟨blocks, hblocks, hl⟩ := ih htail
    exact ⟨_ :: blocks, by rw [List.flatten_cons, ← hblocks, List.take_append_drop], .cons hhead hl⟩

namespace ProjectExport

variable {p : ProjectExport}

theorem drafts_eq_flatMap (p : ProjectExport) : p.drafts = p.tasks.flatMap TaskExport.drafts := rfl

theorem drafts_eq_nil_iff : p.drafts = [] ↔ ∀ t ∈ p.tasks, t.polygonFeatures = [] := by
  simp only [drafts, List.flatMap_eq_nil_iff, List.map_eq_nil_iff]

theorem index?_of_mem_drafts {d : NewDraft} (h : d ∈ p.drafts) : d.index? = none := by
  obtain ⟨t, -, hd⟩ := List.mem_flatMap.mp h
  obtain ⟨f, -, rfl⟩ := List.mem_map.mp hd
  rfl

/-- The export without the tasks that have no area. -/
def usable (p : ProjectExport) : ProjectExport :=
  { p with tasks := p.tasks.filter fun t => !t.polygonFeatures.isEmpty }

theorem drafts_usable (p : ProjectExport) : p.usable.drafts = p.drafts := by
  rw [drafts_eq_flatMap, drafts_eq_flatMap, usable]
  induction p.tasks with
  | nil => rfl
  | cons t tasks ih =>
    cases hareas : t.polygonFeatures with
    | nil =>
      have hnone : t.drafts = [] := by rw [TaskExport.drafts, hareas, List.map_nil]
      rw [List.filter_cons_of_neg (by simp [hareas]), List.flatMap_cons, hnone, List.nil_append, ih]
    | cons f areas =>
      rw [List.filter_cons_of_pos (by simp [hareas]), List.flatMap_cons, List.flatMap_cons, ih]

end ProjectExport

namespace DraftStore

variable {s : DraftStore} {p : ProjectExport}

theorem addProject_of_drafts_eq_nil (h : p.drafts = []) :
    s.addProject p = (.error .noUsableGeometry, s) := by
  rw [addProject, h]

theorem addProject_of_drafts_ne_nil (h : p.drafts ≠ []) :
    s.addProject p = (.ok (s.addTasks p.drafts true).1, (s.addTasks p.drafts true).2) := by
  obtain ⟨d, batch, hbatch⟩ := List.exists_cons_of_ne_nil h
  rw [addProject, hbatch]

theorem imports_storedAs (task : TaskExport) (area : PolygonFeature) (index : Nat) :
    (storedAs true ⟨none, some task.name, area.geometry, task.processPoints⟩ index).Imports
      task area where
  geometry := rfl
  processPoints := rfl
  name := by
    rw [name_storedAs, Option.filter_some]
    cases Text.isBlank task.name <;> rfl

/-- The drafts of a project fall into those of its tasks, in order. -/
theorem exists_blocks_of_addTasks (s : DraftStore) (p : ProjectExport) :
    ∃ blocks, (s.addTasks p.drafts true).1 = blocks.flatten ∧
      List.Forall₂ (fun task block =>
        List.Forall₂ (TaskDraft.Imports task) task.polygonFeatures block) p.tasks blocks := by
  have hstored := s.forall₂_added p.drafts true
  rw [p.drafts_eq_flatMap] at hstored
  obtain ⟨blocks, hblocks, htasks⟩ := exists_blocks_of_flatMap hstored
  refine ⟨blocks, hblocks, htasks.imp fun task block hblock => ?_⟩
  refine (List.forall₂_map_left_iff.mp hblock).imp ?_
  rintro area t ⟨index, rfl⟩
  exact imports_storedAs task area index

end DraftStore

/-- **Importing a project.** It fails just if no task has an area. Else the drafts are stored behind
the others, task by task and one for each area: with its shape in metres, the process points of the
task, and the name of the task, or the identifier if that is blank. The identifiers are the smallest
numbers out of use, in order. Tasks without areas make no difference. -/
theorem importing_adds_each_area {s : DraftStore} (h : Reachable s) (p : ProjectExport) :
    ((s.addProject p).1 = .error .noUsableGeometry ↔ ∀ t ∈ p.tasks, t.polygonFeatures = []) ∧
    ((∃ t ∈ p.tasks, t.polygonFeatures ≠ []) →
      ∃ blocks after, s.addProject p = (.ok blocks.flatten, after) ∧
        after.tasks = s.tasks ++ blocks.flatten ∧ after.selected = s.selected ∧
        List.Forall₂ (fun task block =>
          List.Forall₂ (TaskDraft.Imports task) task.polygonFeatures block) p.tasks blocks ∧
        ∀ (k : Nat) (t : TaskDraft), blocks.flatten[k]? = some t →
          t.id = toString (Nat.nth (fun n => toString n ∉ s.ids) k)) ∧
    s.addProject p.usable = s.addProject p := by
  refine ⟨?_, fun husable => ?_, ?_⟩
  · rw [← ProjectExport.drafts_eq_nil_iff]
    constructor
    · intro herror
      by_contra hne
      rw [DraftStore.addProject_of_drafts_ne_nil hne] at herror
      cases herror
    · intro hnone
      rw [DraftStore.addProject_of_drafts_eq_nil hnone]
  · have hne : p.drafts ≠ [] := by
      rw [Ne, ProjectExport.drafts_eq_nil_iff]
      simpa using husable
    obtain ⟨blocks, hadded, hblocks⟩ := s.exists_blocks_of_addTasks p
    refine ⟨blocks, (s.addTasks p.drafts true).2, ?_, ?_, s.selected_addTasks _ _, hblocks, ?_⟩
    · rw [DraftStore.addProject_of_drafts_ne_nil hne, hadded]
    · rw [DraftStore.tasks_addTasks, hadded]
    · intro k t ht
      rw [← hadded] at ht
      exact h.identified.id_added (fun _ => ProjectExport.index?_of_mem_drafts) ht
  · rw [DraftStore.addProject, DraftStore.addProject, p.drafts_usable]

/-- Into a store that has 1 a project is imported with a broken task, one whose area brings the
identifier 1 along, and one without a name that has two areas. -/
theorem importing_of_three_tasks :
    let stored : NewDraft := ⟨some (.text "1"), none, .polygon [], 0⟩
    let s := Command.runAll .empty [.addTasks [stored] false]
    let point (x y : Int) : Json := .array [.number (.whole x), .number (.whole y)]
    let polygon : Json := .object [("type", .text "Polygon"),
      ("coordinates", .array [.array [point 0 0, point 1 0, point 1 1, point 0 0]])]
    let feature : Json := .object [("type", .text "Feature"), ("id", .number (.whole 1)),
      ("geometry", polygon)]
    let both : Json := .object [("type", .text "GeometryCollection"),
      ("geometries", .array [polygon, polygon])]
    let p : ProjectExport := ⟨"Survey", "", [⟨"Broken", 3, 9, .text "\x7b"⟩,
      ⟨"North", 25, 100, feature⟩, ⟨" ", 7, 9, both⟩]⟩
    ∃ north front back after, s.addProject p = (.ok [north, front, back], after) ∧
      s.addProject p.usable = (.ok [north, front, back], after) ∧
      north.id = "0" ∧ north.name = "North" ∧ north.processPoints = 25 ∧
      front.id = "2" ∧ front.name = "2" ∧ back.id = "3" ∧ back.name = "3" := by
  intro stored s point polygon feature both p
  have hids : s.ids = ["1"] := by
    have hrequests : [stored].map NewDraft.index? = [some 1] := by decide +kernel
    change (DraftStore.empty.addTasks [stored] false).2.ids = ["1"]
    rw [DraftStore.ids_addTasks, DraftStore.assignAll_eq_indicesFor, hrequests]
    rfl
  have hareas : p.tasks.map (fun t => t.polygonFeatures.length) = [0, 1, 2] := by decide +kernel
  simp only [p, List.map_cons, List.map_nil, List.cons.injEq, and_true] at hareas
  obtain ⟨hbroken, hnorth, hunnamed⟩ := hareas
  obtain ⟨-, hadds, husable⟩ := importing_adds_each_area
    (Reachable.empty.runAll (by decide) : Reachable s) p
  obtain ⟨blocks, after, hresult, -, -, hblocks, hfree⟩ :=
    hadds ⟨_, .tail _ (.head _), List.ne_nil_of_length_pos (by rw [hnorth]; decide)⟩
  obtain _ | ⟨h₀, _ | ⟨h₁, _ | ⟨h₂, _ | _⟩⟩⟩ := hblocks
  obtain ⟨area, harea⟩ := List.length_eq_one_iff.mp hnorth
  obtain ⟨front, back, hboth⟩ := List.length_eq_two.mp hunnamed
  rw [List.eq_nil_of_length_eq_zero hbroken] at h₀
  rw [harea] at h₁
  rw [hboth] at h₂
  obtain _ | _ := h₀
  obtain _ | ⟨hareaStored, _ | _⟩ := h₁
  obtain _ | ⟨hfront, _ | ⟨hback, _ | _⟩⟩ := h₂
  have hnth : ∀ n, toString n ∉ ["1"] →
      Nat.nth (fun n => toString n ∉ s.ids) (Nat.count (fun n => toString n ∉ ["1"]) n) = n := by
    rw [hids]
    exact fun _ hn => Nat.nth_count hn
  have hzero := (hfree 0 _ rfl).trans (congrArg toString (hnth 0 (by decide)))
  have htwo := (hfree 1 _ rfl).trans (congrArg toString (hnth 2 (by decide)))
  have hthree := (hfree 2 _ rfl).trans (congrArg toString (hnth 3 (by decide)))
  refine ⟨_, _, _, after, hresult, husable.trans hresult, hzero, ?_, hareaStored.processPoints,
    htwo, ?_, hthree, ?_⟩
  · exact hareaStored.name.trans (if_neg (by decide))
  · exact hfront.name.trans ((if_pos (by decide)).trans htwo)
  · exact hback.name.trans ((if_pos (by decide)).trans hthree)

end GeoDrafts
