import GeoDrafts.Format.Payload
import GeoDrafts.Proofs.Json.Finite
import GeoDrafts.Proofs.Outcome

/-!
The coordinates of features. Those that are read from JSON or from markup are finite: a JSON value
has no other numbers, and in markup each number is tested by itself.
-/

namespace GeoDrafts

def Coord.IsFinite (c : Coord) : Prop := c.x.isFinite = true ∧ c.y.isFinite = true

namespace Geometry

mutual

def coords : Geometry → List Coord
  | .point c => [c]
  | .multiPoint cs => cs
  | .lineString line => line
  | .linearRing ring => ring
  | .multiLineString lines => lines.flatten
  | .polygon rings => rings.flatten
  | .multiPolygon polygons => polygons.flatten.flatten
  | .collection children => coordsOfAll children

def coordsOfAll : List Geometry → List Coord
  | [] => []
  | g :: gs => coords g ++ coordsOfAll gs

end

theorem coordsOfAll_eq_flatMap (gs : List Geometry) : coordsOfAll gs = gs.flatMap coords := by
  induction gs with
  | nil => rfl
  | cons g gs ih => rw [coordsOfAll, List.flatMap_cons, ih]

def IsFinite (g : Geometry) : Prop := ∀ c ∈ g.coords, c.IsFinite

section
variable {lines : List Ring}

theorem isFinite_point {c : Coord} (h : c.IsFinite) : (point c).IsFinite := by
  simpa [IsFinite, coords] using h

theorem isFinite_multiLineString (h : ∀ line ∈ lines, ∀ c ∈ line, c.IsFinite) :
    (multiLineString lines).IsFinite := by
  intro c hc
  obtain ⟨line, hline, hc⟩ := List.mem_flatten.mp hc
  exact h line hline c hc

theorem isFinite_polygon (h : ∀ ring ∈ lines, ∀ c ∈ ring, c.IsFinite) :
    (polygon lines).IsFinite :=
  isFinite_multiLineString h

theorem isFinite_multiPolygon {polygons : List (List Ring)}
    (h : ∀ rings ∈ polygons, ∀ ring ∈ rings, ∀ c ∈ ring, c.IsFinite) :
    (multiPolygon polygons).IsFinite := by
  intro c hc
  obtain ⟨ring, hring, hc⟩ := List.mem_flatten.mp hc
  obtain ⟨rings, hrings, hring⟩ := List.mem_flatten.mp hring
  exact h rings hrings ring hring c hc

theorem isFinite_collection {children : List Geometry} (h : ∀ g ∈ children, g.IsFinite) :
    (collection children).IsFinite := by
  intro c hc
  rw [coords, coordsOfAll_eq_flatMap] at hc
  obtain ⟨g, hg, hc⟩ := List.mem_flatMap.mp hc
  exact h g hg c hc

end

end Geometry

namespace Feature

def coords (f : Feature) : List Coord := f.geometry.toList.flatMap Geometry.coords

def IsFinite (f : Feature) : Prop := ∀ c ∈ f.coords, c.IsFinite

theorem isFinite_none (properties : Json.Members) : IsFinite ⟨none, properties⟩ := by
  simp [IsFinite, coords]

theorem isFinite_some {g : Geometry} (h : g.IsFinite) (properties : Json.Members) :
    IsFinite ⟨some g, properties⟩ := by
  simpa [Feature.IsFinite, Geometry.IsFinite, Feature.coords] using h

end Feature

/-! ## Positions in JSON -/

namespace Position

open Json

section
variable {v : Json}

theorem isFinite_of_items (hv : v.IsFinite) {vs : List Json} (h : items v = .ok vs) :
    ∀ w ∈ vs, w.IsFinite := by
  unfold items at h
  split at h
  · cases h
    exact fun w => hv.of_mem
  · cases h

/-- What is read of each item of an array. -/
theorem forall_of_items {α : Type} {read : Json → Except DecodeError α} {P : α → Prop}
    (hread : ∀ v x, v.IsFinite → read v = .ok x → P x) (hv : v.IsFinite) {xs : List α}
    (h : (do each read (← items v)) = .ok xs) : ∀ x ∈ xs, P x := by
  obtain ⟨vs, hitems, h⟩ := exists_of_bind h
  have hvs := isFinite_of_items hv hitems
  exact forall_of_readEach read (each read) rfl (fun _ _ => rfl)
    (fun w hw x => hread w x (hvs w hw)) h

theorem isFinite_of_coord {c : Coord} (hv : v.IsFinite) (h : coord v = .ok c) : c.IsFinite := by
  unfold coord at h
  split at h
  · rename_i x y more
    split at h
    · rename_i hx hy
      cases h
      exact ⟨(hv.of_mem (List.mem_cons_self ..)).of_float? hx,
        (hv.of_mem (List.mem_cons_of_mem _ (List.mem_cons_self ..))).of_float? hy⟩
    · cases h
  · cases h
  · cases h

theorem isFinite_of_line {line : Ring} (hv : v.IsFinite) (h : Position.line v = .ok line) :
    ∀ c ∈ line, c.IsFinite :=
  forall_of_items (fun _ _ => isFinite_of_coord) hv h

theorem isFinite_of_lines {lines : List Ring} (hv : v.IsFinite)
    (h : Position.lines v = .ok lines) : ∀ line ∈ lines, ∀ c ∈ line, c.IsFinite :=
  forall_of_items (fun _ _ => isFinite_of_line) hv h

theorem isFinite_of_polygons {polygons : List (List Ring)} (hv : v.IsFinite)
    (h : Position.polygons v = .ok polygons) :
    ∀ rings ∈ polygons, ∀ ring ∈ rings, ∀ c ∈ ring, c.IsFinite :=
  forall_of_items (fun _ _ => isFinite_of_lines) hv h

end

end Position

/-! ## GeoJSON -/

namespace GeoJson

theorem isFinite_of_readSimple {kind : String} {v : Json} {g : Geometry} (hv : v.IsFinite)
    (h : readSimple kind v = .ok g) : g.IsFinite := by
  unfold readSimple at h
  split at h
  · obtain ⟨c, hc, rfl⟩ := exists_of_map h
    exact Geometry.isFinite_point (Position.isFinite_of_coord hv hc)
  · obtain ⟨cs, hcs, rfl⟩ := exists_of_map h
    exact Position.isFinite_of_line hv hcs
  · obtain ⟨line, hline, rfl⟩ := exists_of_map h
    exact Position.isFinite_of_line hv hline
  · obtain ⟨lines, hlines, rfl⟩ := exists_of_map h
    exact Geometry.isFinite_multiLineString (Position.isFinite_of_lines hv hlines)
  · obtain ⟨rings, hrings, rfl⟩ := exists_of_map h
    exact Geometry.isFinite_polygon (Position.isFinite_of_lines hv hrings)
  · obtain ⟨polygons, hpolygons, rfl⟩ := exists_of_map h
    exact Geometry.isFinite_multiPolygon (Position.isFinite_of_polygons hv hpolygons)
  · cases h

mutual

theorem isFinite_of_readGeometry (v : Json) (hv : v.IsFinite) {g : Geometry}
    (h : readGeometry v = .ok g) : g.IsFinite := by
  unfold readGeometry at h
  split at h
  · cases h
  · split at h
    · split at h
      · cases h
      · rename_i children hchildren
        have hlt := sizeOf_member?_lt hchildren
        obtain ⟨gs, hgs, rfl⟩ := exists_of_map h
        have hall := hv.of_member? hchildren
        exact Geometry.isFinite_collection
          (isFinite_of_readGeometries children (fun _ => hall.of_mem) hgs)
      · cases h
    · split at h
      · cases h
      · rename_i coordinates hcoordinates
        exact isFinite_of_readSimple (hv.of_member? hcoordinates) h
termination_by sizeOf v
decreasing_by
  simp only [Json.array.sizeOf_spec] at hlt
  omega

theorem isFinite_of_readGeometries (vs : List Json) (hvs : ∀ v ∈ vs, v.IsFinite)
    {gs : List Geometry} (h : readGeometries vs = .ok gs) : ∀ g ∈ gs, g.IsFinite := by
  match vs with
  | [] =>
    unfold readGeometries at h
    cases h
    exact fun _ hg => absurd hg List.not_mem_nil
  | v :: vs =>
    obtain ⟨hv, hrest⟩ := List.forall_mem_cons.mp hvs
    unfold readGeometries at h
    obtain ⟨g, hg, h⟩ := exists_of_bind h
    obtain ⟨gs, hgs, h⟩ := exists_of_bind h
    cases h
    exact List.forall_mem_cons.mpr
      ⟨isFinite_of_readGeometry v hv hg, isFinite_of_readGeometries vs hrest hgs⟩
termination_by sizeOf vs

end

theorem isFinite_of_readFeature {v : Json} {f : Feature} (hv : v.IsFinite)
    (h : readFeature v = .ok f) : f.IsFinite := by
  unfold readFeature at h
  obtain ⟨kind, -, h⟩ := exists_of_bind h
  split at h
  · cases h
  · dsimp only at h
    split at h
    · cases h
      exact Feature.isFinite_none _
    · cases h
      exact Feature.isFinite_none _
    · rename_i hmember
      obtain ⟨geometry, hgeometry, h⟩ := exists_of_bind h
      obtain ⟨g, hg, rfl⟩ := exists_of_map hgeometry
      cases h
      exact Feature.isFinite_some (isFinite_of_readGeometry _ (hv.of_member? hmember) hg) _

theorem isFinite_of_decode {text : String} {features : List Feature}
    (h : decode text = .ok features) : ∀ f ∈ features, f.IsFinite := by
  unfold decode at h
  split at h
  · cases h
  · rename_i v hread
    have hv := Json.isFinite_of_read? hread
    unfold decodeValue at h
    obtain ⟨kind, -, h⟩ := exists_of_bind h
    split at h
    · split at h
      · cases h
      · rename_i hmember
        exact Position.forall_of_items (fun _ _ => isFinite_of_readFeature)
          (hv.of_member? hmember) h
    · split at h
      · obtain ⟨f, hf, rfl⟩ := exists_of_map h
        exact List.forall_mem_singleton.mpr (isFinite_of_readFeature hv hf)
      · obtain ⟨g, hg, rfl⟩ := exists_of_map h
        exact List.forall_mem_singleton.mpr
          (Feature.isFinite_some (isFinite_of_readGeometry v hv hg) _)

end GeoJson

/-! ## Esri JSON -/

namespace Esri

/-- A ring that was added to polygons is one of theirs or the new one. -/
theorem forall_addRing {P : Ring → Prop} {polygons : List (List Ring)} {ring : Ring}
    (hpolygons : ∀ rings ∈ polygons, ∀ r ∈ rings, P r) (hring : P ring) :
    ∀ rings ∈ addRing polygons ring, ∀ r ∈ rings, P r := by
  unfold addRing
  split
  · simpa using hring
  · rename_i p ps
    obtain ⟨hp, hps⟩ := List.forall_mem_cons.mp hpolygons
    split
    · exact List.forall_mem_cons.mpr ⟨List.forall_mem_singleton.mpr hring, hpolygons⟩
    · exact List.forall_mem_cons.mpr ⟨List.forall_mem_cons.mpr ⟨hring, hp⟩, hps⟩

theorem forall_polygonsOfRings {P : Ring → Prop} {rings : List Ring} (h : ∀ r ∈ rings, P r) :
    ∀ polygon ∈ polygonsOfRings rings, ∀ r ∈ polygon, P r := by
  have hfold : ∀ polygon ∈ (rings.filter fun r => !r.isEmpty).foldl addRing [],
      ∀ r ∈ polygon, P r := by
    refine List.foldlRecOn
      (motive := fun polygons : List (List Ring) => ∀ p ∈ polygons, ∀ r ∈ p, P r) _ _
      (fun p hp => absurd hp List.not_mem_nil) ?_
    intro polygons hpolygons ring hring
    exact forall_addRing hpolygons (h ring (List.mem_filter.mp hring).1)
  intro polygon hpolygon r hr
  obtain ⟨reversed, hreversed, rfl⟩ := List.mem_map.mp hpolygon
  exact hfold reversed (List.mem_reverse.mp hreversed) r (List.mem_reverse.mp hr)

theorem isFinite_of_geometryOfRings {rings : List Ring} {g : Geometry}
    (hrings : ∀ ring ∈ rings, ∀ c ∈ ring, c.IsFinite) (h : geometryOfRings rings = .ok g) :
    g.IsFinite := by
  have hpolygons := forall_polygonsOfRings hrings
  unfold geometryOfRings at h
  split at h
  · cases h
  · rename_i polygon heq
    rw [heq] at hpolygons
    cases h
    exact Geometry.isFinite_polygon (List.forall_mem_singleton.mp hpolygons)
  · cases h
    exact Geometry.isFinite_multiPolygon hpolygons

theorem isFinite_of_readGeometry {v : Json} {g : Geometry} (hv : v.IsFinite)
    (h : readGeometry v = .ok g) : g.IsFinite := by
  unfold readGeometry at h
  split at h
  · rename_i hx hy
    obtain ⟨x, hxMember, hx⟩ := Option.bind_eq_some_iff.mp hx
    obtain ⟨y, hyMember, hy⟩ := Option.bind_eq_some_iff.mp hy
    cases h
    exact Geometry.isFinite_point
      ⟨(hv.of_member? hxMember).of_float? hx, (hv.of_member? hyMember).of_float? hy⟩
  · split at h
    · rename_i hpoints
      obtain ⟨cs, hcs, rfl⟩ := exists_of_map h
      exact Position.isFinite_of_line (hv.of_member? hpoints) hcs
    · rename_i hpaths
      obtain ⟨paths, hlines, h⟩ := exists_of_bind h
      have hfinite := Position.isFinite_of_lines (hv.of_member? hpaths) hlines
      split at h
      · cases h
        have hpath := List.forall_mem_singleton.mp hfinite
        exact hpath
      · cases h
        exact Geometry.isFinite_multiLineString hfinite
    · rename_i hrings
      obtain ⟨rings, hlines, h⟩ := exists_of_bind h
      exact isFinite_of_geometryOfRings
        (Position.isFinite_of_lines (hv.of_member? hrings) hlines) h
    · cases h

theorem isFinite_of_readFeature {v : Json} {f : Feature} (hv : v.IsFinite)
    (h : readFeature v = .ok f) : f.IsFinite := by
  unfold readFeature at h
  dsimp only at h
  split at h
  · cases h
    exact Feature.isFinite_none _
  · cases h
    exact Feature.isFinite_none _
  · rename_i hmember
    obtain ⟨geometry, hgeometry, h⟩ := exists_of_bind h
    obtain ⟨g, hg, rfl⟩ := exists_of_map hgeometry
    cases h
    exact Feature.isFinite_some (isFinite_of_readGeometry (hv.of_member? hmember) hg) _

theorem isFinite_of_decode {text : String} {features : List Feature}
    (h : decode text = .ok features) : ∀ f ∈ features, f.IsFinite := by
  unfold decode at h
  split at h
  · cases h
  · rename_i v hread
    have hv := Json.isFinite_of_read? hread
    unfold decodeValue at h
    split at h
    · split at h
      · rename_i hmember
        exact Position.forall_of_items (fun _ _ => isFinite_of_readFeature)
          (hv.of_member? hmember) h
      · split at h
        · obtain ⟨f, hf, rfl⟩ := exists_of_map h
          exact List.forall_mem_singleton.mpr (isFinite_of_readFeature hv hf)
        · obtain ⟨g, hg, rfl⟩ := exists_of_map h
          exact List.forall_mem_singleton.mpr
            (Feature.isFinite_some (isFinite_of_readGeometry hv hg) _)
    · cases h

end Esri

/-! ## Markup -/

theorem isFinite_of_readMeasure {name raw : String} {x : Float}
    (h : readMeasure name raw = .ok x) : x.isFinite = true := by
  unfold readMeasure at h
  split at h
  · split at h
    · cases h
      assumption
    · cases h
  · cases h

namespace Osm

theorem isFinite_of_readNode? {e : Markup.Element} {place : Option (String × Coord)}
    (h : readNode? e = .ok place) : ∀ p ∈ place.toList, p.2.IsFinite := by
  unfold readNode? at h
  split at h
  · obtain ⟨x, hx, h⟩ := exists_of_bind h
    obtain ⟨y, hy, h⟩ := exists_of_bind h
    cases h
    exact List.forall_mem_singleton.mpr ⟨isFinite_of_readMeasure hx, isFinite_of_readMeasure hy⟩
  · cases h
    exact fun _ hp => absurd hp List.not_mem_nil

theorem isFinite_of_readNodes {es : List Markup.Element} {places : List (String × Coord)}
    (h : readNodes es = .ok places) : ∀ p ∈ places, p.2.IsFinite :=
  forall_of_readAll readNode? Option.toList readNodes rfl (fun _ _ => rfl)
    (fun _ _ _ => isFinite_of_readNode?) h

section
variable {places : Places}

theorem Places.isFinite_of_find? (hplaces : ∀ p ∈ places, p.2.IsFinite) {id : String} {c : Coord}
    (h : places.find? id = some c) : c.IsFinite := by
  obtain ⟨p, hp, rfl⟩ := Option.map_eq_some_iff.mp h
  exact hplaces p (List.mem_of_find?_eq_some hp)

theorem isFinite_of_elementFeature? (hplaces : ∀ p ∈ places, p.2.IsFinite) {e : Markup.Element}
    {f : Feature} (h : elementFeature? places e = some f) : f.IsFinite := by
  unfold elementFeature? at h
  split at h
  · unfold nodeFeature? at h
    split at h
    · cases h
    · obtain ⟨id, -, h⟩ := Option.bind_eq_some_iff.mp h
      obtain ⟨place, hplace, h⟩ := Option.bind_eq_some_iff.mp h
      cases h
      exact Feature.isFinite_some
        (Geometry.isFinite_point (Places.isFinite_of_find? hplaces hplace)) _
  · split at h
    · unfold wayFeature? at h
      dsimp only at h
      split at h
      · cases h
      · cases h
        have hcoords : ∀ c ∈ ((e.childrenNamed "nd").filterMap (·.attribute? "ref")).filterMap
            places.find?, c.IsFinite := by
          intro c hc
          obtain ⟨id, -, hid⟩ := List.mem_filterMap.mp hc
          exact Places.isFinite_of_find? hplaces hid
        refine Feature.isFinite_some ?_ _
        split
        · exact Geometry.isFinite_polygon (List.forall_mem_singleton.mpr hcoords)
        · exact hcoords
    · cases h

end

theorem isFinite_of_decode {text : String} {features : List Feature}
    (h : decode text = .ok features) : ∀ f ∈ features, f.IsFinite := by
  obtain ⟨root, -, h⟩ := exists_of_bind h
  obtain ⟨nodes, hnodes, h⟩ := exists_of_bind h
  cases h
  intro f hf
  obtain ⟨e, -, he⟩ := List.mem_filterMap.mp hf
  have hplaces := isFinite_of_readNodes hnodes
  exact isFinite_of_elementFeature? (fun p hp => hplaces p (List.mem_reverse.mp hp)) he

end Osm

namespace Gpx

theorem isFinite_of_readPoint {e : Markup.Element} {c : Coord} (h : readPoint e = .ok c) :
    c.IsFinite := by
  unfold readPoint at h
  split at h
  · cases h
  · cases h
  · obtain ⟨x, hx, h⟩ := exists_of_bind h
    obtain ⟨y, hy, h⟩ := exists_of_bind h
    cases h
    exact ⟨isFinite_of_readMeasure hx, isFinite_of_readMeasure hy⟩

theorem isFinite_of_readPoints {es : List Markup.Element} {line : Ring}
    (h : readPoints es = .ok line) : ∀ c ∈ line, c.IsFinite :=
  forall_of_readEach readPoint readPoints rfl (fun _ _ => rfl)
    (fun _ _ _ => isFinite_of_readPoint) h

theorem isFinite_of_readSegments {es : List Markup.Element} {lines : List Ring}
    (h : readSegments es = .ok lines) : ∀ line ∈ lines, ∀ c ∈ line, c.IsFinite :=
  forall_of_readEach (fun e => readPoints (e.childrenNamed "trkpt")) readSegments rfl
    (fun _ _ => rfl) (fun _ _ _ => isFinite_of_readPoints) h

theorem isFinite_of_readGeometry {e : Markup.Element} {geometry : Option Geometry}
    (h : readGeometry? e = .ok geometry) : ∀ g ∈ geometry, g.IsFinite := by
  unfold readGeometry? at h
  split at h
  · obtain ⟨c, hc, rfl⟩ := exists_of_map h
    rintro g ⟨⟩
    exact Geometry.isFinite_point (isFinite_of_readPoint hc)
  · split at h
    · obtain ⟨line, hline, rfl⟩ := exists_of_map h
      rintro g ⟨⟩
      exact isFinite_of_readPoints hline
    · split at h
      · obtain ⟨lines, hlines, rfl⟩ := exists_of_map h
        rintro g ⟨⟩
        exact Geometry.isFinite_multiLineString (isFinite_of_readSegments hlines)
      · cases h
        rintro g ⟨⟩

theorem isFinite_of_readFeatures {es : List Markup.Element} {features : List Feature}
    (h : readFeatures es = .ok features) : ∀ f ∈ features, f.IsFinite := by
  refine forall_of_readAll (fun e => Except.map (fun geometry => (e, geometry)) <| readGeometry? e)
    (fun read => (read.2.map fun g => Feature.mk (some g) (metadata read.1)).toList)
    readFeatures rfl ?_ ?_ h
  · intro e es
    simp only [readFeatures]
    cases readGeometry? e <;> rfl
  · intro e he read hread f hf
    obtain ⟨geometry, hgeometry, rfl⟩ := exists_of_map hread
    obtain ⟨g, hg, rfl⟩ := Option.map_eq_some_iff.mp (Option.mem_toList.mp hf)
    exact Feature.isFinite_some (isFinite_of_readGeometry hgeometry g hg) _

theorem isFinite_of_decode {text : String} {features : List Feature}
    (h : decode text = .ok features) : ∀ f ∈ features, f.IsFinite := by
  obtain ⟨root, -, h⟩ := exists_of_bind h
  exact isFinite_of_readFeatures h

end Gpx

namespace Kml

theorem isFinite_of_readTuple {tuple : String} {c : Coord} (h : readTuple tuple = .ok c) :
    c.IsFinite := by
  unfold readTuple at h
  split at h
  · obtain ⟨x, hx, h⟩ := exists_of_bind h
    obtain ⟨y, hy, h⟩ := exists_of_bind h
    cases h
    exact ⟨isFinite_of_readMeasure hx, isFinite_of_readMeasure hy⟩
  · cases h

theorem isFinite_of_readTuples {tuples : List String} {line : Ring}
    (h : readTuples tuples = .ok line) : ∀ c ∈ line, c.IsFinite :=
  forall_of_readEach readTuple readTuples rfl (fun _ _ => rfl)
    (fun _ _ _ => isFinite_of_readTuple) h

theorem isFinite_of_readCoordinates {e : Markup.Element} {line : Ring}
    (h : readCoordinates e = .ok line) : ∀ c ∈ line, c.IsFinite := by
  unfold readCoordinates at h
  split at h
  · cases h
    exact fun _ hc => absurd hc List.not_mem_nil
  · exact isFinite_of_readTuples h

theorem isFinite_of_readRings {es : List Markup.Element} {rings : List Ring}
    (h : readRings es = .ok rings) : ∀ ring ∈ rings, ∀ c ∈ ring, c.IsFinite :=
  forall_of_readEach readCoordinates readRings rfl (fun _ _ => rfl)
    (fun _ _ _ => isFinite_of_readCoordinates) h

mutual

theorem isFinite_of_readGeometry (shape : Shape) (e : Markup.Element) {g : Geometry}
    (h : readGeometry shape e = .ok g) : g.IsFinite := by
  match e with
  | ⟨name, attributes, children, rawText⟩ =>
    unfold readGeometry at h
    dsimp only at h
    split at h
    · obtain ⟨ring, hring, h⟩ := exists_of_bind h
      have hfinite := isFinite_of_readCoordinates hring
      split at h
      · cases h
      · cases h
        exact Geometry.isFinite_point (List.forall_mem_cons.mp hfinite).1
    · obtain ⟨line, hline, rfl⟩ := exists_of_map h
      exact isFinite_of_readCoordinates hline
    · obtain ⟨ring, hring, rfl⟩ := exists_of_map h
      exact isFinite_of_readCoordinates hring
    · obtain ⟨rings, hrings, h⟩ := exists_of_bind h
      split at h
      · cases h
      · cases h
        exact Geometry.isFinite_polygon (isFinite_of_readRings hrings)
    · obtain ⟨gs, hgs, rfl⟩ := exists_of_map h
      exact Geometry.isFinite_collection (isFinite_of_readGeometries children hgs)

theorem isFinite_of_readGeometries (es : List Markup.Element) {gs : List Geometry}
    (h : readGeometries es = .ok gs) : ∀ g ∈ gs, g.IsFinite := by
  match es with
  | [] =>
    unfold readGeometries at h
    cases h
    exact fun _ hg => absurd hg List.not_mem_nil
  | e :: es =>
    unfold readGeometries at h
    split at h
    · exact isFinite_of_readGeometries es h
    · obtain ⟨g, hg, h⟩ := exists_of_bind h
      obtain ⟨gs, hgs, h⟩ := exists_of_bind h
      cases h
      exact List.forall_mem_cons.mpr
        ⟨isFinite_of_readGeometry _ e hg, isFinite_of_readGeometries es hgs⟩

end

theorem isFinite_of_firstGeometry {es : List Markup.Element} {geometry : Option Geometry}
    (h : firstGeometry? es = .ok geometry) : ∀ g ∈ geometry, g.IsFinite := by
  induction es with
  | nil =>
    cases h
    rintro g ⟨⟩
  | cons e es ih =>
    unfold firstGeometry? at h
    split at h
    · exact ih h
    · obtain ⟨g, hg, rfl⟩ := exists_of_map h
      rintro g ⟨⟩
      exact isFinite_of_readGeometry _ e hg

theorem isFinite_of_readPlacemark {e : Markup.Element} {f : Feature}
    (h : readPlacemark e = .ok f) : f.IsFinite := by
  obtain ⟨geometry, hgeometry, h⟩ := exists_of_bind h
  cases h
  cases geometry with
  | none => exact Feature.isFinite_none _
  | some g => exact Feature.isFinite_some (isFinite_of_firstGeometry hgeometry g rfl) _

theorem isFinite_of_decode {text : String} {features : List Feature}
    (h : decode text = .ok features) : ∀ f ∈ features, f.IsFinite := by
  obtain ⟨root, -, h⟩ := exists_of_bind h
  exact forall_of_readEach readPlacemark readPlacemarks rfl (fun _ _ => rfl)
    (fun _ _ _ => isFinite_of_readPlacemark) h

end Kml

end GeoDrafts
