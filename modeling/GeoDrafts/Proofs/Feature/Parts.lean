import GeoDrafts.Feature.Normal
import Mathlib.Data.List.Basic

/-!
The parts of a geometry. Collections group other geometries and a list of lines stands for its
lines, so what remains of a geometry is the sequence of the parts below them, in document order.
Geometries with the same parts are those that come from each other by regrouping, and the normal
form of a feature is read off the parts one by one.
-/

namespace GeoDrafts

namespace Geometry

mutual

/-- The geometries that are no collections, in document order. -/
def leaves : Geometry → List Geometry
  | .collection children => leavesOfAll children
  | g => [g]

def leavesOfAll : List Geometry → List Geometry
  | [] => []
  | g :: gs => leaves g ++ leavesOfAll gs

end

/-- Each line of a list of lines by itself, and any other geometry as it is. -/
def singles : Geometry → List Geometry
  | .multiLineString lines => lines.map .lineString
  | g => [g]

/-- What is left when collections and lists of lines are taken apart. -/
def parts (g : Geometry) : List Geometry := g.leaves.flatMap singles

def area? : Geometry → Option PolygonGeometry
  | .polygon rings =>
    if (PolygonGeometry.polygon rings).coords = [] then none else some (.polygon rings)
  | .multiPolygon polygons =>
    if (PolygonGeometry.multiPolygon polygons).coords = [] then none
    else some (.multiPolygon polygons)
  | .lineString line => if line.isClosed then some (.ofRing line) else none
  | .linearRing ring => some (.ofRing ring)
  | .point _ => none
  | .multiPoint _ => none
  | .multiLineString _ => none
  | .collection _ => none

/-- One sequence of geometries comes from another by grouping neighbours in collections, taking
collections apart, and writing a list of lines as a collection of its lines or the reverse. -/
inductive Regrouped : List Geometry → List Geometry → Prop where
  | refl (gs : List Geometry) : Regrouped gs gs
  | symm {gs hs : List Geometry} : Regrouped gs hs → Regrouped hs gs
  | trans {gs hs is : List Geometry} : Regrouped gs hs → Regrouped hs is → Regrouped gs is
  | append {gs gs' hs hs' : List Geometry} :
    Regrouped gs gs' → Regrouped hs hs' → Regrouped (gs ++ hs) (gs' ++ hs')
  | children (gs : List Geometry) : Regrouped [.collection gs] gs
  | lines (lines : List Ring) :
    Regrouped [.multiLineString lines] [.collection (lines.map .lineString)]

theorem leavesOfAll_eq_flatMap (gs : List Geometry) : leavesOfAll gs = gs.flatMap leaves := by
  induction gs with
  | nil => rfl
  | cons g gs ih => rw [leavesOfAll, List.flatMap_cons, ih]

theorem parts_collection (children : List Geometry) :
    (collection children).parts = children.flatMap parts := by
  rw [parts, leaves, leavesOfAll_eq_flatMap, List.flatMap_assoc]
  rfl

theorem parts_multiLineString (lines : List Ring) :
    (multiLineString lines).parts = lines.map .lineString := by
  simp only [parts, leaves, List.flatMap_singleton, singles]

mutual

/-- A geometry can be taken apart into its parts. -/
theorem regrouped_parts (g : Geometry) : Regrouped [g] g.parts := by
  match g with
  | .collection children =>
    rw [parts_collection]
    exact .trans (.children children) (regrouped_flatMap_parts children)
  | .multiLineString lines =>
    rw [parts_multiLineString]
    exact .trans (.lines lines) (.children _)
  | .point _ | .multiPoint _ | .lineString _ | .linearRing _ | .polygon _ | .multiPolygon _ =>
    exact .refl _

theorem regrouped_flatMap_parts (gs : List Geometry) : Regrouped gs (gs.flatMap parts) := by
  match gs with
  | [] => exact .refl _
  | g :: gs => exact .append (regrouped_parts g) (regrouped_flatMap_parts gs)

end

/-- Regrouping keeps the parts. -/
theorem Regrouped.parts_eq {gs hs : List Geometry} (h : Regrouped gs hs) :
    gs.flatMap parts = hs.flatMap parts := by
  induction h with
  | refl => rfl
  | symm _ ih => exact ih.symm
  | trans _ _ ih ih' => exact ih.trans ih'
  | append _ _ ih ih' => rw [List.flatMap_append, List.flatMap_append, ih, ih']
  | children gs => rw [List.flatMap_singleton, parts_collection]
  | lines lines =>
    rw [List.flatMap_singleton, List.flatMap_singleton, parts_collection, parts_multiLineString,
      List.flatMap_map]
    exact List.map_eq_flatMap

/-- Two geometries come from each other by regrouping just if they have the same parts. -/
theorem regrouped_iff {g h : Geometry} : Regrouped [g] [h] ↔ g.parts = h.parts := by
  constructor
  · intro hgroup
    simpa using hgroup.parts_eq
  · intro heq
    exact .trans (regrouped_parts g) (heq ▸ .symm (regrouped_parts h))

/-- A polygon or multipolygon bounds itself, if it has a coordinate. -/
theorem area?_toGeometry (g : PolygonGeometry) :
    g.toGeometry.area? = if g.coords = [] then none else some g := by
  cases g <;> rfl

theorem areas_toGeometry (g : PolygonGeometry) :
    g.toGeometry.areas = g.toGeometry.area?.toList := by
  have hareas : g.toGeometry.areas = g.nonEmpty?.toList := by cases g <;> rfl
  rw [hareas, area?_toGeometry, PolygonGeometry.nonEmpty?]
  simp only [List.isEmpty_iff]

/-- A geometry that is its only part bounds what this part bounds. -/
theorem filterMap_parts {g : Geometry} (h : g.parts = [g]) :
    g.parts.filterMap area? = g.area?.toList := by
  rw [h, List.filterMap_cons]
  cases g.area? <;> rfl

mutual

/-- The areas of a geometry are those of its parts. -/
theorem areas_eq (g : Geometry) : g.areas = g.parts.filterMap area? := by
  match g with
  | .collection children => rw [areas, parts_collection, areasOfAll_eq]
  | .multiLineString lines =>
    rw [areas, parts_multiLineString, List.filterMap_map, ← List.filterMap_eq_map,
      List.filterMap_filter]
    rfl
  | .polygon rings =>
    rw [filterMap_parts rfl]
    exact areas_toGeometry (.polygon rings)
  | .multiPolygon polygons =>
    rw [filterMap_parts rfl]
    exact areas_toGeometry (.multiPolygon polygons)
  | .lineString line =>
    rw [filterMap_parts rfl, areas, area?]
    split <;> rfl
  | .linearRing _ | .point _ | .multiPoint _ => rfl

theorem areasOfAll_eq (gs : List Geometry) :
    areasOfAll gs = (gs.flatMap parts).filterMap area? := by
  match gs with
  | [] => rfl
  | g :: gs => rw [areasOfAll, List.flatMap_cons, List.filterMap_append, areas_eq, areasOfAll_eq]

end

end Geometry

theorem Feature.normalize_eq {f : Feature} {g : Geometry} (hg : f.geometry = some g) :
    f.normalize = (g.parts.filterMap Geometry.area?).map fun area => ⟨area, f.properties⟩ := by
  simp only [normalize, hg, g.areas_eq]

/-- **Regrouping a geometry.** Two geometries come from each other by grouping in collections,
taking these apart, and writing lists of lines as collections of their lines, just if they have the
same parts. If so, or if the geometries that are no collections are the same in order, features with
the same properties have the same normal form. It has, in the order of the parts, one area for each
polygon with a coordinate, each closed line and each ring, and nothing else, all of them with the
properties of the feature. -/
theorem normalize_of_regrouped {f f' : Feature} {g g' : Geometry} (hg : f.geometry = some g)
    (hg' : f'.geometry = some g') (hproperties : f.properties = f'.properties) :
    (Geometry.Regrouped [g] [g'] ↔ g.parts = g'.parts) ∧
    (g.leaves = g'.leaves ∨ Geometry.Regrouped [g] [g'] → f.normalize = f'.normalize) ∧
    f.normalize = (g.parts.filterMap Geometry.area?).map fun area => ⟨area, f.properties⟩ := by
  have hparts : g.leaves = g'.leaves ∨ Geometry.Regrouped [g] [g'] → g.parts = g'.parts := by
    rintro (hleaves | hgroup)
    · rw [Geometry.parts, hleaves, Geometry.parts]
    · exact Geometry.regrouped_iff.mp hgroup
  refine ⟨Geometry.regrouped_iff, fun h => ?_, Feature.normalize_eq hg⟩
  rw [Feature.normalize_eq hg, Feature.normalize_eq hg', hparts h, hproperties]

/-- Two lines, one of them closed, in a list of lines and in collections. The ring without
coordinates is an area, the polygon without any is not. -/
theorem normalize_of_regrouped_lines :
    let closed : Ring := [⟨0, 0⟩, ⟨1, 0⟩, ⟨1, 1⟩, ⟨0, 0⟩]
    let line : Ring := [⟨0, 0⟩, ⟨1, 0⟩, ⟨1, 1⟩, ⟨0, 1⟩]
    let g : Geometry := .collection [.linearRing [], .collection [.multiLineString [line, closed]],
      .polygon [[]], .polygon [line]]
    let g' : Geometry := .collection [.collection [.linearRing [], .lineString line],
      .lineString closed, .collection [.polygon [[]], .collection []], .polygon [line]]
    let properties : Json.Members := [("name", .text "Yard")]
    let f : Feature := ⟨some g, properties⟩
    let f' : Feature := ⟨some g', properties⟩
    f.normalize = f'.normalize ∧ f.normalize =
      [⟨.ofRing [], properties⟩, ⟨.ofRing closed, properties⟩, ⟨.polygon [line], properties⟩] := by
  intro closed line g g' properties f f'
  have hg : f.geometry = some g := rfl
  have hg' : f'.geometry = some g' := rfl
  obtain ⟨hgroup, hsame, hlist⟩ := normalize_of_regrouped hg hg' rfl
  have hareas : g.parts.filterMap Geometry.area? =
      [.ofRing [], .ofRing closed, .polygon [line]] := by decide +kernel
  refine ⟨hsame (.inr (hgroup.mpr rfl)), ?_⟩
  rw [hlist, hareas]
  rfl

end GeoDrafts
