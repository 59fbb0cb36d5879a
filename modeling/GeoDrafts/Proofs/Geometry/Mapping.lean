import GeoDrafts.Geometry.Projection
import Mathlib.Data.List.Basic

/-!
Mapping the coordinates of a geometry. A function is applied to each coordinate where it stands, so
maps compose, areas may be mapped before or after they are taken for geometries, and projections
move points without adding, dropping or reordering any.
-/

namespace GeoDrafts

variable (f h : Coord → Coord)

namespace Geometry

mutual

theorem mapCoords_id (g : Geometry) : g.mapCoords id = g := by
  match g with
  | .collection children => rw [mapCoords, mapChildren_id]
  | .point _ | .multiPoint _ | .lineString _ | .linearRing _ | .multiLineString _ | .polygon _
  | .multiPolygon _ => simp [mapCoords]

theorem mapChildren_id (gs : List Geometry) : mapChildren id gs = gs := by
  match gs with
  | [] => rfl
  | g :: gs => rw [mapChildren, mapCoords_id, mapChildren_id]

end

mutual

theorem mapCoords_mapCoords (g : Geometry) :
    (g.mapCoords f).mapCoords h = g.mapCoords (h ∘ f) := by
  match g with
  | .collection children => rw [mapCoords, mapCoords, mapCoords, mapChildren_mapChildren]
  | .point _ | .multiPoint _ | .lineString _ | .linearRing _ | .multiLineString _ | .polygon _
  | .multiPolygon _ => simp [mapCoords]

theorem mapChildren_mapChildren (gs : List Geometry) :
    mapChildren h (mapChildren f gs) = mapChildren (h ∘ f) gs := by
  match gs with
  | [] => rfl
  | g :: gs =>
    rw [mapChildren, mapChildren, mapChildren, mapCoords_mapCoords, mapChildren_mapChildren]

end

end Geometry

namespace PolygonGeometry

/-- An area is mapped as the geometry that it is. -/
theorem toGeometry_mapCoords (g : PolygonGeometry) :
    (g.mapCoords f).toGeometry = g.toGeometry.mapCoords f := by
  cases g <;> rfl

theorem toGeometry_injective : Function.Injective toGeometry := by
  intro g g' h
  cases g <;> cases g' <;> cases h <;> rfl

theorem mapCoords_id (g : PolygonGeometry) : g.mapCoords id = g :=
  toGeometry_injective ((toGeometry_mapCoords id g).trans g.toGeometry.mapCoords_id)

theorem mapCoords_mapCoords (g : PolygonGeometry) :
    (g.mapCoords f).mapCoords h = g.mapCoords (h ∘ f) := by
  apply toGeometry_injective
  rw [toGeometry_mapCoords, toGeometry_mapCoords, toGeometry_mapCoords,
    Geometry.mapCoords_mapCoords]

theorem kind_mapCoords (g : PolygonGeometry) : (g.mapCoords f).kind = g.kind := by
  cases g <;> rfl

theorem polygons_mapCoords (g : PolygonGeometry) :
    (g.mapCoords f).polygons = g.polygons.map (·.map (·.map f)) := by
  cases g <;> rfl

theorem coords_mapCoords (g : PolygonGeometry) : (g.mapCoords f).coords = g.coords.map f := by
  rw [coords, coords, polygons_mapCoords, List.map_flatten, List.map_flatten]

end PolygonGeometry

/-- **Mapping keeps the structure.** The identity changes no geometry, and one map after another
is a map by their composition; this holds of geometries and of areas, which are mapped alike. The
coordinates of a mapped area are the mapped coordinates, in order. So a projection keeps the kind
of an area and moves each point of each ring of each polygon where it stands. -/
theorem mapCoords_keeps_structure (g : Geometry) (p : PolygonGeometry) :
    (g.mapCoords id = g ∧ p.mapCoords id = p) ∧
    ((g.mapCoords f).mapCoords h = g.mapCoords (h ∘ f) ∧
      (p.mapCoords f).mapCoords h = p.mapCoords (h ∘ f)) ∧
    (p.mapCoords f).toGeometry = p.toGeometry.mapCoords f ∧
    (p.mapCoords f).coords = p.coords.map f ∧
    (p.toProjected.kind = p.kind ∧
      p.toProjected.polygons = p.polygons.map (·.map (·.map Projection.project))) ∧
    (p.toGeographic.kind = p.kind ∧
      p.toGeographic.polygons = p.polygons.map (·.map (·.map Projection.unproject))) :=
  ⟨⟨g.mapCoords_id, p.mapCoords_id⟩, ⟨g.mapCoords_mapCoords f h, p.mapCoords_mapCoords f h⟩,
    p.toGeometry_mapCoords f, p.coords_mapCoords f,
    ⟨p.kind_mapCoords _, p.polygons_mapCoords _⟩, ⟨p.kind_mapCoords _, p.polygons_mapCoords _⟩⟩

end GeoDrafts
