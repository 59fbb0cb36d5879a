import GeoDrafts.Feature.Normal
import GeoDrafts.Geometry.Extent
import GeoDrafts.Proofs.Geometry.Mapping
import Mathlib.Data.List.Basic
import Mathlib.Tactic.Tauto

/-!
The areas of a feature and their coordinates. Of the geometries that look like an area, those
without coordinates are dropped, but a ring of its own is taken for an area as it is. So the one
area without coordinates is that of an empty ring.
-/

namespace GeoDrafts

namespace PolygonGeometry

variable {g : PolygonGeometry}

theorem mem_nonEmpty?_iff {a : PolygonGeometry} :
    a ∈ g.nonEmpty?.toList ↔ a = g ∧ a.coords ≠ [] := by
  unfold nonEmpty?
  split
  · rename_i hempty
    rw [List.isEmpty_iff] at hempty
    exact ⟨fun h => absurd h List.not_mem_nil, by rintro ⟨rfl, hne⟩; exact absurd hempty hne⟩
  · rename_i hempty
    rw [List.isEmpty_iff] at hempty
    exact ⟨fun h => by obtain rfl := List.mem_singleton.mp h; exact ⟨rfl, hempty⟩,
      fun h => List.mem_singleton.mpr h.1⟩

theorem coords_ofRing (ring : Ring) : (ofRing ring).coords = ring := by
  simp [ofRing, coords, polygons]

theorem coords_toProjected_ne_nil_iff : g.toProjected.coords ≠ [] ↔ g.coords ≠ [] := by
  rw [toProjected, coords_mapCoords, Ne, List.map_eq_nil_iff]

/-- A geometry has a bounding box if it has a coordinate. -/
theorem boundingBox?_isSome_iff : g.boundingBox?.isSome ↔ g.coords ≠ [] := by
  unfold boundingBox?
  split <;> simp_all

end PolygonGeometry

/-- A closed ring has at least four coordinates. -/
theorem Ring.ne_nil_of_isClosed {ring : Ring} (h : ring.isClosed = true) : ring ≠ [] := by
  rintro rfl
  cases h

namespace Geometry

mutual

/-- The areas that a geometry looks like, with or without coordinates. -/
def outlines : Geometry → List PolygonGeometry
  | .polygon rings => [.polygon rings]
  | .multiPolygon polygons => [.multiPolygon polygons]
  | .lineString line => if Ring.isClosed line then [.ofRing line] else []
  | .linearRing ring => [.ofRing ring]
  | .multiLineString lines => (lines.filter Ring.isClosed).map .ofRing
  | .point _ => []
  | .multiPoint _ => []
  | .collection children => outlinesOfAll children

def outlinesOfAll : List Geometry → List PolygonGeometry
  | [] => []
  | g :: gs => outlines g ++ outlinesOfAll gs

end

mutual

/-- The rings that are geometries of their own. -/
def ownRings : Geometry → List Ring
  | .linearRing ring => [ring]
  | .collection children => ownRingsOfAll children
  | _ => []

def ownRingsOfAll : List Geometry → List Ring
  | [] => []
  | g :: gs => ownRings g ++ ownRingsOfAll gs

end

theorem ownRingsOfAll_eq_nil {gs : List Geometry} (h : ∀ g ∈ gs, g.ownRings = []) :
    ownRingsOfAll gs = [] := by
  induction gs with
  | nil => rfl
  | cons g gs ih =>
    obtain ⟨hfirst, hrest⟩ := List.forall_mem_cons.mp h
    rw [ownRingsOfAll, hfirst, ih hrest, List.append_nil]

/-- A closed line is an area with coordinates. -/
theorem mem_ofRing_iff (lines : List Ring) {a : PolygonGeometry} :
    a ∈ (lines.filter Ring.isClosed).map .ofRing ↔
      a ∈ (lines.filter Ring.isClosed).map .ofRing ∧ a.coords ≠ [] := by
  refine (and_iff_left_of_imp fun h => ?_).symm
  obtain ⟨ring, hring, rfl⟩ := List.mem_map.mp h
  rw [PolygonGeometry.coords_ofRing]
  exact Ring.ne_nil_of_isClosed (List.mem_filter.mp hring).2

mutual

/-- The areas are the outlines that have coordinates, and those of empty rings. -/
theorem mem_areas_iff (g : Geometry) {a : PolygonGeometry} :
    a ∈ g.areas ↔ (a ∈ g.outlines ∧ a.coords ≠ []) ∨ (a = .ofRing [] ∧ [] ∈ g.ownRings) := by
  match g with
  | .polygon rings =>
    rw [areas, PolygonGeometry.mem_nonEmpty?_iff]
    simp [outlines, ownRings]
  | .multiPolygon polygons =>
    rw [areas, PolygonGeometry.mem_nonEmpty?_iff]
    simp [outlines, ownRings]
  | .lineString line =>
    have hline := mem_ofRing_iff [line] (a := a)
    rw [List.filter_cons, List.filter_nil] at hline
    simpa [areas, outlines, ownRings, apply_ite (List.map _)] using hline
  | .linearRing ring =>
    simp only [areas, outlines, ownRings, List.mem_singleton]
    constructor
    · rintro rfl
      rw [PolygonGeometry.coords_ofRing]
      rcases eq_or_ne ring [] with rfl | hne
      · exact .inr ⟨rfl, rfl⟩
      · exact .inl ⟨rfl, hne⟩
    · rintro (⟨h, -⟩ | ⟨rfl, rfl⟩)
      · exact h
      · rfl
  | .multiLineString lines => simpa [areas, outlines, ownRings] using mem_ofRing_iff lines
  | .point c => simp [areas, outlines, ownRings]
  | .multiPoint cs => simp [areas, outlines, ownRings]
  | .collection children => exact mem_areasOfAll_iff children

theorem mem_areasOfAll_iff (gs : List Geometry) {a : PolygonGeometry} :
    a ∈ areasOfAll gs ↔
      (a ∈ outlinesOfAll gs ∧ a.coords ≠ []) ∨ (a = .ofRing [] ∧ [] ∈ ownRingsOfAll gs) := by
  match gs with
  | [] => simp [areasOfAll, outlinesOfAll, ownRingsOfAll]
  | g :: gs =>
    simp only [areasOfAll, outlinesOfAll, ownRingsOfAll, List.mem_append, mem_areas_iff g,
      mem_areasOfAll_iff gs]
    tauto

end

end Geometry

namespace Feature

def outlines (f : Feature) : List PolygonGeometry := f.geometry.toList.flatMap Geometry.outlines

def ownRings (f : Feature) : List Ring := f.geometry.toList.flatMap Geometry.ownRings

variable {features : List Feature}

/-- The areas of features are the outlines that have coordinates, and those of empty rings. -/
theorem exists_normalizeAll_iff {a : PolygonGeometry} :
    (∃ p ∈ normalizeAll features, p.geometry = a) ↔
      (a ∈ features.flatMap outlines ∧ a.coords ≠ []) ∨
        (a = .ofRing [] ∧ [] ∈ features.flatMap ownRings) := by
  have hfeature : ∀ f : Feature, (∃ p ∈ f.normalize, p.geometry = a) ↔
      (a ∈ f.outlines ∧ a.coords ≠ []) ∨ (a = .ofRing [] ∧ [] ∈ f.ownRings) := by
    intro ⟨geometry, properties⟩
    cases geometry with
    | none => simp [normalize, outlines, ownRings]
    | some g => simpa [normalize, outlines, ownRings] using g.mem_areas_iff (a := a)
  simp only [normalizeAll, List.mem_flatMap]
  constructor
  · rintro ⟨p, ⟨f, hf, hp⟩, rfl⟩
    rcases (hfeature f).mp ⟨p, hp, rfl⟩ with ⟨h, hne⟩ | ⟨h, hring⟩
    · exact .inl ⟨⟨f, hf, h⟩, hne⟩
    · exact .inr ⟨h, f, hf, hring⟩
  · rintro (⟨⟨f, hf, h⟩, hne⟩ | ⟨h, f, hf, hring⟩)
    · obtain ⟨p, hp, rfl⟩ := (hfeature f).mpr (.inl ⟨h, hne⟩)
      exact ⟨p, ⟨f, hf, hp⟩, rfl⟩
    · obtain ⟨p, hp, rfl⟩ := (hfeature f).mpr (.inr ⟨h, hring⟩)
      exact ⟨p, ⟨f, hf, hp⟩, rfl⟩

theorem normalizeAll_eq_nil_iff : normalizeAll features = [] ↔
    (∀ a ∈ features.flatMap outlines, a.coords = []) ∧ [] ∉ features.flatMap ownRings := by
  rw [List.eq_nil_iff_forall_not_mem]
  constructor
  · intro hnone
    constructor
    · intro a ha
      by_contra hne
      obtain ⟨p, hp, -⟩ := exists_normalizeAll_iff.mpr (.inl ⟨ha, hne⟩)
      exact hnone p hp
    · intro hring
      obtain ⟨p, hp, -⟩ := exists_normalizeAll_iff.mpr (.inr ⟨rfl, hring⟩)
      exact hnone p hp
  · rintro ⟨hempty, hring⟩ p hp
    rcases exists_normalizeAll_iff.mp ⟨p, hp, rfl⟩ with ⟨ha, hne⟩ | ⟨-, h⟩
    · exact hne (hempty _ ha)
    · exact hring h

/-- Every area has a coordinate, unless there is an empty ring. -/
theorem forall_normalizeAll_iff :
    (∀ p ∈ normalizeAll features, p.geometry.coords ≠ []) ↔ [] ∉ features.flatMap ownRings := by
  constructor
  · intro hall hring
    obtain ⟨p, hp, heq⟩ := exists_normalizeAll_iff.mpr (.inr ⟨rfl, hring⟩)
    exact hall p hp (heq ▸ PolygonGeometry.coords_ofRing [])
  · intro hring p hp
    rcases exists_normalizeAll_iff.mp ⟨p, hp, rfl⟩ with ⟨-, hne⟩ | ⟨-, h⟩
    · exact hne
    · exact absurd h hring

end Feature

end GeoDrafts
