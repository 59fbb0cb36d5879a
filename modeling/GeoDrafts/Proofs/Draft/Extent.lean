import GeoDrafts.Proofs.Draft.Batch
import GeoDrafts.Proofs.Format.OwnRings

/-!
The extent of drafts that come from a payload. A draft with a coordinate has a bounding box, so it
can be laid under a grid. All drafts of a payload are such, unless the payload holds an empty ring
that is a geometry of its own.
-/

namespace GeoDrafts

/-! ## Laying a grid -/

namespace Grid

theorem Plan.dimensions_ne_emptyGeometry (p : Plan) : p.dimensions ≠ .error .emptyGeometry := by
  unfold dimensions
  split <;> simp

theorem candidates_ne_emptyGeometry (shape : GridShape) (size : Float) (box : Box) :
    candidates shape size box ≠ .error .emptyGeometry := by
  intro h
  rcases error_of_bind h with h | ⟨_, -, h⟩
  · exact Plan.dimensions_ne_emptyGeometry _ h
  · cases h

theorem cells_emptyGeometry_iff (g : PolygonGeometry) (shape : GridShape) (size : Float) :
    cells g shape size = .error .emptyGeometry ↔ isCellSize size = true ∧ g.coords = [] := by
  have hbox := g.boundingBox?_isSome_iff
  unfold cells
  cases hsize : isCellSize size with
  | false => simp
  | true =>
    cases hg : g.boundingBox? with
    | none => simpa [hg] using hbox
    | some box =>
      have hne : g.coords ≠ [] := hbox.mp (by rw [hg]; rfl)
      simp only [Bool.not_true, Bool.false_eq_true, if_false, hne, and_false, iff_false]
      split
      · intro h
        rcases error_of_bind h with h | ⟨_, -, h⟩
        · exact candidates_ne_emptyGeometry shape size box h
        · cases h
      · simp

end Grid

/-- Wherever a draft is found, dividing it fails for want of an extent just if the size is one of
cells and the draft has no coordinates. -/
theorem DraftStore.subdivide_emptyGeometry_iff {s : DraftStore} {id : String} {t : TaskDraft}
    {shape : GridShape} {size : Float} (hfind : s.find? id = some t) :
    (s.subdivide id shape size).1 = .error (.invalidBatchInput .emptyGeometry) ↔
      isCellSize size = true ∧ t.geometry.coords = [] := by
  rw [← Grid.cells_emptyGeometry_iff t.geometry shape size]
  simp only [subdivide, hfind]
  split
  · rename_i e hcells
    simp [hcells]
  · rename_i hcells
    simp [hcells]
  · rename_i hcells
    simp [hcells]

/-- There is a coordinate, hence a bounding box, and no draft with this geometry fails to be divided
for want of an extent. -/
structure PolygonGeometry.HasExtent (g : PolygonGeometry) : Prop where
  coords : g.coords ≠ []
  boundingBox : g.boundingBox?.isSome
  subdivide : ∀ (s : DraftStore) (id : String) (t : TaskDraft) (shape : GridShape) (size : Float),
    s.find? id = some t → t.geometry = g →
      (s.subdivide id shape size).1 ≠ .error (.invalidBatchInput .emptyGeometry)

theorem PolygonGeometry.hasExtent_iff {g : PolygonGeometry} : g.HasExtent ↔ g.coords ≠ [] := by
  refine ⟨HasExtent.coords, fun hne => ⟨hne, boundingBox?_isSome_iff.mpr hne, ?_⟩⟩
  rintro s id t shape size hfind rfl hempty
  exact hne ((DraftStore.subdivide_emptyGeometry_iff hfind).mp hempty).2

theorem PolygonGeometry.hasExtent_toProjected_iff {g : PolygonGeometry} :
    g.toProjected.HasExtent ↔ g.coords ≠ [] :=
  hasExtent_iff.trans coords_toProjected_ne_nil_iff

/-! ## Loading a payload -/

def Command.loaded? : Command → Option ByteArray
  | .addPayload payload => some payload
  | .addFetched fetched => fetched.toOption
  | .addRemote url answer => (fetchFrom answer url).toOption
  | _ => none

namespace DraftStore

variable {s : DraftStore} {payload : ByteArray} {format : PayloadFormat} {features : List Feature}

theorem addFetched_of_toOption {fetched : Except FetchError ByteArray}
    (h : fetched.toOption = some payload) : s.addFetched fetched = s.addPayload payload := by
  rw [ok_of_toOption h]
  rfl

theorem addPayload_of_areas (h : detect? PayloadFormat.all payload = some (format, features))
    (hareas : Feature.normalizeAll features ≠ []) : s.addPayload payload =
      (s.addTasks ((Feature.normalizeAll features).map .ofFeature) true).map .ok id := by
  cases hall : Feature.normalizeAll features with
  | nil => exact absurd hall hareas
  | cons area areas =>
    simp only [addPayload, h, hall]
    rfl

/-- What is added are the areas, each in metres. -/
theorem addPayload_of_detect? (h : detect? PayloadFormat.all payload = some (format, features)) :
    (Feature.normalizeAll features = [] ∧ s.addPayload payload = (.error .noUsableGeometry, s)) ∨
    ∃ added, Feature.normalizeAll features ≠ [] ∧ (s.addPayload payload).1 = .ok added ∧
      (s.addPayload payload).2.tasks = s.tasks ++ added ∧
      added.map (·.geometry) =
        (Feature.normalizeAll features).map fun p => p.geometry.toProjected := by
  by_cases hareas : Feature.normalizeAll features = []
  · exact .inl ⟨hareas, by simp only [addPayload, h, hareas]⟩
  · rw [addPayload_of_areas h hareas]
    refine .inr ⟨(s.addTasks ((Feature.normalizeAll features).map .ofFeature) true).1, hareas, rfl,
      tasks_addTasks .., ?_⟩
    rw [map_geometry_added, List.map_map]
    rfl

end DraftStore

theorem Command.run_of_loaded? {s : DraftStore} {c : Command} {payload : ByteArray}
    (h : c.loaded? = some payload) : c.run s = (s.addPayload payload).map (·.map .drafts) id := by
  cases c with
  | addPayload body =>
    obtain rfl : body = payload := Option.some.inj h
    rfl
  | addFetched fetched =>
    have hfetched : fetched.toOption = some payload := h
    rw [run, DraftStore.addFetched_of_toOption hfetched]
  | addRemote url answer =>
    have hfetched : (fetchFrom answer url).toOption = some payload := h
    rw [run, DraftStore.addFetched_of_toOption hfetched]
  | _ => cases h

/-- **Extent of loaded drafts.** A payload whose areas all lack coordinates has nothing that can be
used, and every draft of another one has an extent, so far as no ring that is a geometry of its own
is empty: such a ring is stored as a draft without coordinates. Only KML and well-known text have
rings of that kind. -/
theorem loaded_extent_iff {c : Command} {payload : ByteArray} {format : PayloadFormat}
    {features : List Feature} (hc : c.loaded? = some payload)
    (h : detect? PayloadFormat.all payload = some (format, features)) (s : DraftStore) :
    let outlines := features.flatMap Feature.outlines
    let rings := features.flatMap Feature.ownRings
    (format ≠ .kml → format ≠ .wkt → [] ∉ rings) ∧
    ((∀ a ∈ outlines, a.coords = []) ∧ [] ∉ rings → c.run s = (.error .noUsableGeometry, s)) ∧
    ((∃ a ∈ outlines, a.coords ≠ []) ∨ [] ∈ rings →
      ∃ added, (c.run s).1 = .ok (.drafts added) ∧ added ≠ [] ∧
        (c.run s).2.tasks = s.tasks ++ added ∧
        (∀ t ∈ added, t.geometry.HasExtent ∨ t.geometry = .ofRing []) ∧
        ((∀ t ∈ added, t.geometry.HasExtent) ↔ [] ∉ rings)) := by
  intro outlines rings
  have hnothing : Feature.normalizeAll features = [] ↔
      (∀ a ∈ outlines, a.coords = []) ∧ [] ∉ rings :=
    Feature.normalizeAll_eq_nil_iff
  refine ⟨?_, ?_, ?_⟩
  · intro hkml hwkt
    rw [show rings = [] from ownRings_of_detect? h hkml hwkt]
    exact List.not_mem_nil
  · intro hempty
    rcases s.addPayload_of_detect? h with ⟨-, hresult⟩ | ⟨_, hareas, -⟩
    · rw [Command.run_of_loaded? hc, hresult]
      rfl
    · exact absurd (hnothing.mpr hempty) hareas
  · intro hsome
    rcases s.addPayload_of_detect? h with ⟨hareas, -⟩ | ⟨added, hareas, hok, htasks, hgeometry⟩
    · obtain ⟨hempty, hring⟩ := hnothing.mp hareas
      rcases hsome with ⟨a, ha, hne⟩ | hmem
      · exact absurd (hempty a ha) hne
      · exact absurd hmem hring
    · have hforall : ∀ P : PolygonGeometry → Prop, (∀ t ∈ added, P t.geometry) ↔
          ∀ p ∈ Feature.normalizeAll features, P p.geometry.toProjected := by
        intro P
        rw [← List.forall_mem_map, hgeometry, List.forall_mem_map]
      refine ⟨added, ?_, ?_, ?_, ?_, ?_⟩
      · rw [Command.run_of_loaded? hc, Prod.map_fst, hok]
        rfl
      · rintro rfl
        exact hareas (List.map_eq_nil_iff.mp hgeometry.symm)
      · rw [Command.run_of_loaded? hc]
        exact htasks
      · refine (hforall fun g => g.HasExtent ∨ g = .ofRing []).mpr fun p hp => ?_
        rcases Feature.exists_normalizeAll_iff.mp ⟨p, hp, rfl⟩ with ⟨-, hne⟩ | ⟨hring, -⟩
        · exact .inl (PolygonGeometry.hasExtent_toProjected_iff.mpr hne)
        · rw [hring]
          exact .inr rfl
      · rw [hforall PolygonGeometry.HasExtent, ← Feature.forall_normalizeAll_iff]
        exact forall₂_congr fun p _ => PolygonGeometry.hasExtent_toProjected_iff

/-- A polygon without coordinates beside a ring, which is not empty. -/
theorem loaded_extent_of_collection :
    let payload := "GEOMETRYCOLLECTION(POLYGON EMPTY, LINEARRING(0 0, 1 0, 1 1))".toUTF8
    ∃ added, ((Command.addPayload payload).run .empty).1 = .ok (.drafts added) ∧ added ≠ [] ∧
      ∀ t ∈ added, t.geometry.HasExtent := by
  intro payload
  let triangle : Ring := [⟨0, 0⟩, ⟨1, 0⟩, ⟨1, 1⟩]
  have hdetect : (detect? PayloadFormat.all payload).map (fun r =>
      (r.2.flatMap Feature.outlines, r.2.flatMap Feature.ownRings)) =
        some ([.polygon [], .ofRing triangle], [triangle]) := by
    decide +kernel
  obtain ⟨⟨format, features⟩, h, heq⟩ := Option.map_eq_some_iff.mp hdetect
  obtain ⟨houtlines, hrings⟩ := Prod.mk.inj heq
  have hall := (loaded_extent_iff (c := .addPayload payload) rfl h .empty).2.2
  dsimp only at houtlines hrings hall
  rw [houtlines, hrings] at hall
  have htriangle : (PolygonGeometry.ofRing triangle).coords ≠ [] := by
    rw [PolygonGeometry.coords_ofRing]
    exact List.cons_ne_nil _ _
  obtain ⟨added, hok, hne, -, -, hextent⟩ :=
    hall (.inl ⟨_, List.mem_cons_of_mem _ List.mem_cons_self, htriangle⟩)
  refine ⟨added, hok, hne, hextent.mpr ?_⟩
  rw [List.mem_singleton]
  exact (List.cons_ne_nil _ _).symm

/-- A ring without coordinates is recognised, and stored. -/
theorem no_extent_of_empty_ring :
    ∃ format features added,
      detect? PayloadFormat.all "LINEARRING EMPTY".toUTF8 = some (format, features) ∧
      (∀ a ∈ features.flatMap Feature.outlines, a.coords = []) ∧
      (DraftStore.empty.addPayload "LINEARRING EMPTY".toUTF8).1 = .ok added ∧
      ¬ ∀ t ∈ added, t.geometry.coords ≠ [] := by
  have hdetect : (detect? PayloadFormat.all "LINEARRING EMPTY".toUTF8).map (fun r =>
      (r.2.flatMap Feature.outlines, (Feature.normalizeAll r.2).map (·.geometry))) =
        some ([.ofRing []], [.ofRing []]) := by
    decide +kernel
  obtain ⟨⟨format, features⟩, h, heq⟩ := Option.map_eq_some_iff.mp hdetect
  obtain ⟨houtlines, hareas⟩ := Prod.mk.inj heq
  dsimp only at houtlines hareas
  obtain ⟨p, hp, hring⟩ := List.map_eq_singleton_iff.mp hareas
  rcases DraftStore.empty.addPayload_of_detect? h with ⟨hnil, -⟩ | ⟨added, -, hok, -, hgeometry⟩
  · rw [hnil] at hp
    cases hp
  · refine ⟨format, features, added, h, ?_, hok, fun hall => ?_⟩
    · rw [houtlines, List.forall_mem_singleton]
      exact PolygonGeometry.coords_ofRing []
    · rw [hp] at hgeometry
      obtain ⟨t, rfl, ht⟩ := List.map_eq_singleton_iff.mp hgeometry
      refine hall t (List.mem_singleton_self t) ?_
      dsimp only at ht
      rw [ht, hring]
      rfl

end GeoDrafts
