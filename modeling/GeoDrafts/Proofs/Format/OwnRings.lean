import GeoDrafts.Proofs.Feature.Area
import GeoDrafts.Proofs.Format.Detection

/-!
Rings that are geometries of their own. They can be written in KML and in well-known text; the other
formats have rings inside polygons only.
-/

namespace GeoDrafts

theorem Feature.ownRings_some {g : Geometry} (h : g.ownRings = []) (properties : Json.Members) :
    Feature.ownRings ⟨some g, properties⟩ = [] := by
  simpa [Feature.ownRings] using h

namespace GeoJson

theorem ownRings_of_readSimple {kind : String} {v : Json} {g : Geometry}
    (h : readSimple kind v = .ok g) : g.ownRings = [] := by
  unfold readSimple at h
  split at h
  case h_7 => cases h
  all_goals
    obtain ⟨_, -, rfl⟩ := exists_of_map h
    rfl

mutual

theorem ownRings_of_readGeometry (v : Json) {g : Geometry} (h : readGeometry v = .ok g) :
    g.ownRings = [] := by
  unfold readGeometry at h
  split at h
  · cases h
  · split at h
    · split at h
      · cases h
      · rename_i children hchildren
        have hlt := sizeOf_member?_lt hchildren
        obtain ⟨gs, hgs, rfl⟩ := exists_of_map h
        exact Geometry.ownRingsOfAll_eq_nil (ownRings_of_readGeometries children hgs)
      · cases h
    · split at h
      · cases h
      · exact ownRings_of_readSimple h
termination_by sizeOf v
decreasing_by
  simp only [Json.array.sizeOf_spec] at hlt
  omega

theorem ownRings_of_readGeometries (vs : List Json) {gs : List Geometry}
    (h : readGeometries vs = .ok gs) : ∀ g ∈ gs, g.ownRings = [] := by
  match vs with
  | [] =>
    unfold readGeometries at h
    cases h
    exact fun _ hg => absurd hg List.not_mem_nil
  | v :: vs =>
    unfold readGeometries at h
    obtain ⟨g, hg, h⟩ := exists_of_bind h
    obtain ⟨gs, hgs, h⟩ := exists_of_bind h
    cases h
    exact List.forall_mem_cons.mpr
      ⟨ownRings_of_readGeometry v hg, ownRings_of_readGeometries vs hgs⟩
termination_by sizeOf vs

end

theorem ownRings_of_readFeature {v : Json} {f : Feature} (h : readFeature v = .ok f) :
    f.ownRings = [] := by
  unfold readFeature at h
  obtain ⟨kind, -, h⟩ := exists_of_bind h
  split at h
  · cases h
  · dsimp only at h
    split at h
    · cases h
      rfl
    · cases h
      rfl
    · obtain ⟨geometry, hgeometry, h⟩ := exists_of_bind h
      obtain ⟨g, hg, rfl⟩ := exists_of_map hgeometry
      cases h
      exact Feature.ownRings_some (ownRings_of_readGeometry _ hg) _

theorem ownRings_of_decode {text : String} {features : List Feature}
    (h : decode text = .ok features) : ∀ f ∈ features, f.ownRings = [] := by
  unfold decode at h
  split at h
  · cases h
  · unfold decodeValue at h
    obtain ⟨kind, -, h⟩ := exists_of_bind h
    split at h
    · split at h
      · cases h
      · obtain ⟨vs, -, h⟩ := exists_of_bind h
        exact forall_of_readEach readFeature (Position.each readFeature) rfl (fun _ _ => rfl)
          (fun _ _ _ => ownRings_of_readFeature) h
    · split at h
      · obtain ⟨f, hf, rfl⟩ := exists_of_map h
        exact List.forall_mem_singleton.mpr (ownRings_of_readFeature hf)
      · obtain ⟨g, hg, rfl⟩ := exists_of_map h
        exact List.forall_mem_singleton.mpr
          (Feature.ownRings_some (ownRings_of_readGeometry _ hg) _)

end GeoJson

namespace Esri

theorem ownRings_of_geometryOfRings {rings : List Ring} {g : Geometry}
    (h : geometryOfRings rings = .ok g) : g.ownRings = [] := by
  unfold geometryOfRings at h
  split at h
  · cases h
  · cases h
    rfl
  · cases h
    rfl

theorem ownRings_of_readGeometry {v : Json} {g : Geometry} (h : readGeometry v = .ok g) :
    g.ownRings = [] := by
  unfold readGeometry at h
  split at h
  · cases h
    rfl
  · split at h
    · obtain ⟨cs, -, rfl⟩ := exists_of_map h
      rfl
    · obtain ⟨paths, -, h⟩ := exists_of_bind h
      split at h
      · cases h
        rfl
      · cases h
        rfl
    · obtain ⟨rings, -, h⟩ := exists_of_bind h
      exact ownRings_of_geometryOfRings h
    · cases h

theorem ownRings_of_readFeature {v : Json} {f : Feature} (h : readFeature v = .ok f) :
    f.ownRings = [] := by
  unfold readFeature at h
  dsimp only at h
  split at h
  · cases h
    rfl
  · cases h
    rfl
  · obtain ⟨geometry, hgeometry, h⟩ := exists_of_bind h
    obtain ⟨g, hg, rfl⟩ := exists_of_map hgeometry
    cases h
    exact Feature.ownRings_some (ownRings_of_readGeometry hg) _

theorem ownRings_of_decode {text : String} {features : List Feature}
    (h : decode text = .ok features) : ∀ f ∈ features, f.ownRings = [] := by
  unfold decode at h
  split at h
  · cases h
  · unfold decodeValue at h
    split at h
    · split at h
      · obtain ⟨vs, -, h⟩ := exists_of_bind h
        exact forall_of_readEach readFeature (Position.each readFeature) rfl (fun _ _ => rfl)
          (fun _ _ _ => ownRings_of_readFeature) h
      · split at h
        · obtain ⟨f, hf, rfl⟩ := exists_of_map h
          exact List.forall_mem_singleton.mpr (ownRings_of_readFeature hf)
        · obtain ⟨g, hg, rfl⟩ := exists_of_map h
          exact List.forall_mem_singleton.mpr
            (Feature.ownRings_some (ownRings_of_readGeometry hg) _)
    · cases h

end Esri

namespace Osm

theorem ownRings_of_elementFeature? {places : Places} {e : Markup.Element} {f : Feature}
    (h : elementFeature? places e = some f) : f.ownRings = [] := by
  unfold elementFeature? at h
  split at h
  · unfold nodeFeature? at h
    split at h
    · cases h
    · obtain ⟨id, -, h⟩ := Option.bind_eq_some_iff.mp h
      obtain ⟨place, -, h⟩ := Option.bind_eq_some_iff.mp h
      cases h
      rfl
  · split at h
    · unfold wayFeature? at h
      dsimp only at h
      split at h
      · cases h
      · cases h
        apply Feature.ownRings_some
        split
        · rfl
        · rfl
    · cases h

theorem ownRings_of_decode {text : String} {features : List Feature}
    (h : decode text = .ok features) : ∀ f ∈ features, f.ownRings = [] := by
  obtain ⟨root, -, h⟩ := exists_of_bind h
  obtain ⟨nodes, -, h⟩ := exists_of_bind h
  cases h
  intro f hf
  obtain ⟨e, -, he⟩ := List.mem_filterMap.mp hf
  exact ownRings_of_elementFeature? he

end Osm

namespace Gpx

theorem ownRings_of_readGeometry {e : Markup.Element} {geometry : Option Geometry}
    (h : readGeometry? e = .ok geometry) : ∀ g ∈ geometry, g.ownRings = [] := by
  unfold readGeometry? at h
  split at h
  · obtain ⟨c, -, rfl⟩ := exists_of_map h
    rintro g ⟨⟩
    rfl
  · split at h
    · obtain ⟨line, -, rfl⟩ := exists_of_map h
      rintro g ⟨⟩
      rfl
    · split at h
      · obtain ⟨lines, -, rfl⟩ := exists_of_map h
        rintro g ⟨⟩
        rfl
      · cases h
        rintro g ⟨⟩

theorem ownRings_of_readFeatures {es : List Markup.Element} {features : List Feature}
    (h : readFeatures es = .ok features) : ∀ f ∈ features, f.ownRings = [] := by
  induction es generalizing features with
  | nil =>
    cases h
    exact fun _ hf => absurd hf List.not_mem_nil
  | cons e es ih =>
    obtain ⟨geometry, hgeometry, h⟩ := exists_of_bind h
    obtain ⟨rest, hrest, h⟩ := exists_of_bind h
    cases h
    refine List.forall_mem_append.mpr ⟨fun f hf => ?_, ih hrest⟩
    obtain ⟨g, hg, rfl⟩ := Option.map_eq_some_iff.mp (Option.mem_toList.mp hf)
    exact Feature.ownRings_some (ownRings_of_readGeometry hgeometry g hg) _

theorem ownRings_of_decode {text : String} {features : List Feature}
    (h : decode text = .ok features) : ∀ f ∈ features, f.ownRings = [] := by
  obtain ⟨root, -, h⟩ := exists_of_bind h
  exact ownRings_of_readFeatures h

end Gpx

/-- Rings of their own come from KML and from well-known text. -/
theorem ownRings_of_detect? {payload : ByteArray} {format : PayloadFormat}
    {features : List Feature} (h : detect? PayloadFormat.all payload = some (format, features))
    (hkml : format ≠ .kml) (hwkt : format ≠ .wkt) : features.flatMap Feature.ownRings = [] := by
  obtain ⟨text, -, hdecode⟩ := decode_of_detect? h
  rw [List.flatMap_eq_nil_iff]
  cases format with
  | geoJson => exact GeoJson.ownRings_of_decode hdecode
  | osmXml => exact Osm.ownRings_of_decode hdecode
  | gpx => exact Gpx.ownRings_of_decode hdecode
  | esriJson => exact Esri.ownRings_of_decode hdecode
  | kml => exact absurd rfl hkml
  | wkt => exact absurd rfl hwkt

end GeoDrafts
