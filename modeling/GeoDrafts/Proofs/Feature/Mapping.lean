import GeoDrafts.Proofs.Feature.Area
import GeoDrafts.Proofs.Feature.Parts
import GeoDrafts.Proofs.Format.Coords

/-!
Moving the coordinates of a feature before or after its areas are taken. The one choice that looks
at coordinates is whether a line ends where it starts, so the order does not matter for a function
that lets two coordinates meet just if they met before.
-/

namespace GeoDrafts

def Feature.mapCoords (f : Coord → Coord) (feature : Feature) : Feature :=
  { feature with geometry := feature.geometry.map (Geometry.mapCoords f) }

def PolygonFeature.mapCoords (f : Coord → Coord) (feature : PolygonFeature) : PolygonFeature :=
  { feature with geometry := feature.geometry.mapCoords f }

/-- Two of the coordinates meet after `f` just if they met before. -/
def Coord.KeepsMeeting (f : Coord → Coord) (cs : List Coord) : Prop :=
  ∀ a ∈ cs, ∀ b ∈ cs, ((f a).meets (f b) = true ↔ a.meets b = true)

variable {f : Coord → Coord}

theorem Coord.KeepsMeeting.of_subset {cs cs' : List Coord} (h : KeepsMeeting f cs)
    (hsub : ∀ c ∈ cs', c ∈ cs) : KeepsMeeting f cs' :=
  fun a ha b hb => h a (hsub a ha) b (hsub b hb)

/-- Closure looks at no more than the number of coordinates and whether the ends meet. -/
theorem Ring.isClosed_map {ring : Ring} (h : Coord.KeepsMeeting f ring) :
    Ring.isClosed (ring.map f) = ring.isClosed := by
  unfold isClosed
  rw [List.head?_map, List.getLast?_map, List.length_map]
  cases hfirst : ring.head? with
  | none => rfl
  | some first =>
    cases hlast : ring.getLast? with
    | none => rfl
    | some last =>
      have hmeets : (f first).meets (f last) = first.meets last := Bool.eq_iff_iff.mpr
        (h first (List.mem_of_head? hfirst) last (List.mem_of_getLast? hlast))
      simp only [Option.map_some, hmeets]

namespace Geometry

mutual

/-- The parts are moved one by one. -/
theorem parts_mapCoords (f : Coord → Coord) (g : Geometry) :
    (g.mapCoords f).parts = g.parts.map (mapCoords f) := by
  match g with
  | .collection children =>
    rw [mapCoords, parts_collection, parts_collection, flatMap_parts_mapChildren]
  | .point _ | .multiPoint _ | .lineString _ | .linearRing _ | .multiLineString _ | .polygon _
  | .multiPolygon _ => simp [parts, leaves, mapCoords, singles]

theorem flatMap_parts_mapChildren (f : Coord → Coord) (gs : List Geometry) :
    (mapChildren f gs).flatMap parts = (gs.flatMap parts).map (mapCoords f) := by
  match gs with
  | [] => rfl
  | g :: gs =>
    rw [mapChildren, List.flatMap_cons, List.flatMap_cons, List.map_append, parts_mapCoords,
      flatMap_parts_mapChildren]

end

mutual

/-- The coordinates are those of the parts. -/
theorem flatMap_coords_parts (g : Geometry) : g.parts.flatMap coords = g.coords := by
  match g with
  | .collection children => rw [parts_collection, flatMap_coords_flatMap_parts, coords]
  | .multiLineString lines =>
    rw [parts_multiLineString, List.flatMap_map]
    exact List.flatMap_id
  | .point _ | .multiPoint _ | .lineString _ | .linearRing _ | .polygon _ | .multiPolygon _ =>
    simp [parts, leaves, singles]

theorem flatMap_coords_flatMap_parts (gs : List Geometry) :
    (gs.flatMap parts).flatMap coords = coordsOfAll gs := by
  match gs with
  | [] => rfl
  | g :: gs =>
    rw [List.flatMap_cons, List.flatMap_append, flatMap_coords_parts, flatMap_coords_flatMap_parts,
      coordsOfAll]

end

/-- Whether an area has coordinates does not depend on where they are. -/
theorem area?_mapCoords_toGeometry (f : Coord → Coord) (g : PolygonGeometry) :
    (g.toGeometry.mapCoords f).area? = g.toGeometry.area?.map (PolygonGeometry.mapCoords f) := by
  rw [← PolygonGeometry.toGeometry_mapCoords, area?_toGeometry, area?_toGeometry,
    PolygonGeometry.coords_mapCoords]
  simp only [List.map_eq_nil_iff]
  split <;> rfl

/-- Moving a part moves the area that it bounds. -/
theorem area?_mapCoords {p : Geometry} (h : Coord.KeepsMeeting f p.coords) :
    (p.mapCoords f).area? = p.area?.map (PolygonGeometry.mapCoords f) := by
  cases p with
  | polygon rings => exact area?_mapCoords_toGeometry f (.polygon rings)
  | multiPolygon polygons => exact area?_mapCoords_toGeometry f (.multiPolygon polygons)
  | lineString line =>
    have hclosed : Ring.isClosed (line.map f) = line.isClosed := Ring.isClosed_map h
    simp only [mapCoords, area?, hclosed]
    split <;> rfl
  | _ => rfl

end Geometry

/-- **Moving coordinates.** Suppose that `f` lets two coordinates of a feature meet just if they met
before. Then moving all coordinates of the feature and taking its areas gives the areas of the
feature, moved one by one. -/
theorem normalize_mapCoords {feature : Feature} (h : Coord.KeepsMeeting f feature.coords) :
    (feature.mapCoords f).normalize = feature.normalize.map (PolygonFeature.mapCoords f) := by
  obtain ⟨geometry, properties⟩ := feature
  cases geometry with
  | none => rfl
  | some g =>
    have hg : Coord.KeepsMeeting f g.coords := by
      simpa [Feature.coords] using h
    have hpart : ∀ p ∈ g.parts,
        (p.mapCoords f).area? = p.area?.map (PolygonGeometry.mapCoords f) := by
      intro p hp
      refine Geometry.area?_mapCoords (hg.of_subset fun c hc => ?_)
      rw [← g.flatMap_coords_parts]
      exact List.mem_flatMap.mpr ⟨p, hp, hc⟩
    have hareas : (g.mapCoords f).parts.filterMap Geometry.area? =
        (g.parts.filterMap Geometry.area?).map (PolygonGeometry.mapCoords f) := by
      rw [Geometry.parts_mapCoords, List.filterMap_map, List.map_filterMap]
      exact List.filterMap_congr hpart
    have hmoved := Feature.normalize_eq (f := Feature.mapCoords f ⟨some g, properties⟩) rfl
    have hkept := Feature.normalize_eq (f := ⟨some g, properties⟩) rfl
    rw [hmoved, hkept, hareas, List.map_map, List.map_map]
    rfl

/-- A line that ends at the other zero is closed, and after a move its ends are the same to the bit.
The place that is not a number meets nothing, before and after. -/
theorem normalize_mapCoords_of_line :
    let line : Ring := [⟨0, 0⟩, ⟨1, 0⟩, ⟨1, 1⟩, ⟨-0, 0⟩]
    let moved : Ring := [⟨1, 0⟩, ⟨2, 0⟩, ⟨2, 1⟩, ⟨1, 0⟩]
    let feature : Feature := ⟨some (.collection [.point ⟨0 / 0, 0⟩, .lineString line]), []⟩
    let f : Coord → Coord := fun c => ⟨c.x + 1, c.y⟩
    Coord.KeepsMeeting f feature.coords ∧ feature.normalize = [⟨.ofRing line, []⟩] ∧
      (feature.mapCoords f).normalize = [⟨.ofRing moved, []⟩] := by
  intro line moved feature f
  have h : Coord.KeepsMeeting f feature.coords := by
    unfold Coord.KeepsMeeting
    decide +kernel
  have hareas : (Geometry.collection [.point ⟨0 / 0, 0⟩, .lineString line]).areas =
      [.ofRing line] := by decide +kernel
  have hkept : feature.normalize = [⟨.ofRing line, []⟩] :=
    congrArg (List.map fun area => PolygonFeature.mk area []) hareas
  have hmoved : (PolygonGeometry.ofRing line).mapCoords f = .ofRing moved := by decide +kernel
  refine ⟨h, hkept, ?_⟩
  rw [normalize_mapCoords h, hkept, List.map_singleton, PolygonFeature.mapCoords, hmoved]

end GeoDrafts
