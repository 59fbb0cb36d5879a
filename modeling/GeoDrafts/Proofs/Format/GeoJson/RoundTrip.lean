import GeoDrafts.Geometry.Record
import GeoDrafts.Proofs.Feature.Area
import GeoDrafts.Proofs.Format.Coords
import GeoDrafts.Proofs.Format.GeoJson.Feature

/-!
From features to GeoJSON and back. The values that stand for a collection of features are a
relation: objects may have other members, positions may have further elements, and a feature may
have an identifier beside its properties. Each of these values is read as the features that it
stands for, and there is one for every list of features.
-/

namespace GeoDrafts.GeoJson

/-! ## Values of a geometry -/

/-- An array whose first two elements are the numbers of a coordinate. -/
inductive WritesPosition (c : Coord) : Json → Prop where
  | numbers {x y : Json} {more : List Json} (hx : x.float? = some c.x)
      (hy : y.float? = some c.y) : WritesPosition c (.array (x :: y :: more))

inductive WritesArray {α : Type} (write : α → Json → Prop) (as : List α) : Json → Prop where
  | items {vs : List Json} (h : List.Forall₂ write as vs) : WritesArray write as (.array vs)

/-- The coordinates of a geometry that is no collection. Rings of their own have none. -/
def WritesCoordinates : Geometry → Json → Prop
  | .point c => WritesPosition c
  | .multiPoint cs => WritesArray WritesPosition cs
  | .lineString line => WritesArray WritesPosition line
  | .multiLineString lines => WritesArray (WritesArray WritesPosition) lines
  | .polygon rings => WritesArray (WritesArray WritesPosition) rings
  | .multiPolygon polygons => WritesArray (WritesArray (WritesArray WritesPosition)) polygons
  | .linearRing _ | .collection _ => fun _ => False

/-- An object of a kind and its coordinates, or its geometries. -/
inductive Writes : Geometry → Json → Prop where
  | coordinates {g : Geometry} {v w : Json} (htype : v.member? "type" = some (.text g.kind.name))
      (hcoordinates : v.member? "coordinates" = some w) (h : WritesCoordinates g w) : Writes g v
  | geometries {children : List Geometry} {v : Json} {vs : List Json}
      (htype : v.member? "type" = some (.text GeometryKind.geometryCollection.name))
      (hgeometries : v.member? "geometries" = some (.array vs))
      (h : List.Forall₂ Writes children vs) : Writes (.collection children) v

/-! ## Values of features -/

/-- A feature with the identifier that is written beside its properties, if there is one. -/
structure Entry where
  feature : Feature
  id : Option Json

/-- An object of a geometry, of properties and perhaps of an identifier. A feature without geometry
has none or a null one; without properties it may do the same. -/
structure WritesFeature (e : Entry) (v : Json) : Prop where
  type : v.member? "type" = some (.text "Feature")
  geometry : match e.feature.geometry with
    | none => v.member? "geometry" = none ∨ v.member? "geometry" = some .null
    | some g => ∃ w, v.member? "geometry" = some w ∧ Writes g w
  properties : v.member? "properties" = some (.object e.feature.properties) ∨
    e.feature.properties = [] ∧
      (v.member? "properties" = none ∨ v.member? "properties" = some .null)
  id : v.member? "id" = e.id

structure WritesCollection (entries : List Entry) (v : Json) : Prop where
  type : v.member? "type" = some (.text "FeatureCollection")
  features : ∃ vs, v.member? "features" = some (.array vs) ∧ List.Forall₂ WritesFeature entries vs

/-- A feature is read as it was written. Its properties have got the identifier just if they had
none, and nothing else is different. -/
structure Entry.IsReadAs (e : Entry) (f : Feature) : Prop where
  geometry : f.geometry = e.feature.geometry
  unchanged : e.id = none ∨ (e.feature.properties.find? "id").isSome = true →
    f.properties = e.feature.properties
  added : ∀ id, e.id = some id → e.feature.properties.find? "id" = none →
    f.properties.find? "id" = some id ∧
      ∀ key, key ≠ "id" → f.properties.find? key = e.feature.properties.find? key

/-! ## Reading -/

theorem items_of_writes {α : Type} {write : α → Json → Prop}
    {read : Json → Except DecodeError α} (hread : ∀ a v, write a v → read v = .ok a)
    {as : List α} {v : Json} (h : WritesArray write as v) :
    (do Position.each read (← Position.items v)) = .ok as := by
  cases h with
  | items h =>
    exact (readEach_eq_ok_iff read (Position.each read) rfl fun _ _ => rfl).mpr
      (h.imp fun a v => hread a v).flip

theorem coord_of_writes (c : Coord) (v : Json) (h : WritesPosition c v) :
    Position.coord v = .ok c := by
  cases h with
  | numbers hx hy => rw [Position.coord, hx, hy]

theorem line_of_writes (line : Ring) (v : Json) (h : WritesArray WritesPosition line v) :
    Position.line v = .ok line :=
  items_of_writes coord_of_writes h

theorem lines_of_writes (lines : List Ring) (v : Json)
    (h : WritesArray (WritesArray WritesPosition) lines v) : Position.lines v = .ok lines :=
  items_of_writes line_of_writes h

theorem polygons_of_writes (polygons : List (List Ring)) (v : Json)
    (h : WritesArray (WritesArray (WritesArray WritesPosition)) polygons v) :
    Position.polygons v = .ok polygons :=
  items_of_writes lines_of_writes h

theorem readSimple_of_writes {g : Geometry} {v : Json} (h : WritesCoordinates g v) :
    readSimple g.kind.name v = .ok g := by
  cases g with
  | point c => exact congrArg (Except.map Geometry.point) (coord_of_writes c v h)
  | multiPoint cs => exact congrArg (Except.map Geometry.multiPoint) (line_of_writes cs v h)
  | lineString line => exact congrArg (Except.map Geometry.lineString) (line_of_writes line v h)
  | multiLineString lines =>
    exact congrArg (Except.map Geometry.multiLineString) (lines_of_writes lines v h)
  | polygon rings => exact congrArg (Except.map Geometry.polygon) (lines_of_writes rings v h)
  | multiPolygon polygons =>
    exact congrArg (Except.map Geometry.multiPolygon) (polygons_of_writes polygons v h)
  | linearRing ring => cases h
  | collection children => cases h

theorem readGeometry_of_coordinates {g : Geometry} {v w : Json}
    (htype : v.member? "type" = some (.text g.kind.name))
    (hcoordinates : v.member? "coordinates" = some w) (h : WritesCoordinates g w) :
    readGeometry v = .ok g := by
  refine readGeometry_of_readSimple ?_ htype hcoordinates (readSimple_of_writes h)
  cases g with
  | collection children => cases h
  | _ => simp [Geometry.kind, GeometryKind.name]

theorem readGeometry_of_geometries {gs : List Geometry} {v : Json} {vs : List Json}
    (htype : v.member? "type" = some (.text GeometryKind.geometryCollection.name))
    (hgeometries : v.member? "geometries" = some (.array vs)) (h : readGeometries vs = .ok gs) :
    readGeometry v = .ok (.collection gs) := by
  rw [readGeometry, typeOf_of_member? htype]
  dsimp only
  rw [if_pos (by rfl)]
  split
  · rename_i hnone
    rw [hgeometries] at hnone
    cases hnone
  · rename_i children hchildren
    rw [hgeometries] at hchildren
    cases hchildren
    rw [h]
    rfl
  · rename_i hother hsome
    rw [hgeometries] at hsome
    cases hsome
    exact absurd rfl (hother vs)

mutual

theorem readGeometry_of_writes (g : Geometry) {v : Json} (h : Writes g v) :
    readGeometry v = .ok g := by
  cases h with
  | coordinates htype hcoordinates h => exact readGeometry_of_coordinates htype hcoordinates h
  | @geometries children v vs htype hgeometries h =>
    exact readGeometry_of_geometries htype hgeometries (readGeometries_of_writes children h)

theorem readGeometries_of_writes (gs : List Geometry) {vs : List Json}
    (h : List.Forall₂ Writes gs vs) : readGeometries vs = .ok gs := by
  cases h with
  | nil => rw [readGeometries]
  | @cons g v gs vs hg hgs =>
    rw [readGeometries, readGeometry_of_writes g hg, readGeometries_of_writes gs hgs]
    rfl

end

theorem readFeature_of_writes {e : Entry} {v : Json} (h : WritesFeature e v) :
    readFeature v = .ok ⟨e.feature.geometry, allProperties v⟩ := by
  have hgeometry := h.geometry
  cases hg : e.feature.geometry with
  | none =>
    rw [hg] at hgeometry
    exact readFeature_of_no_geometry h.type hgeometry
  | some g =>
    rw [hg] at hgeometry
    obtain ⟨w, hw, hwrites⟩ := hgeometry
    exact readFeature_of_geometry h.type hw (readGeometry_of_writes g hwrites)

theorem isReadAs_of_writes {e : Entry} {v : Json} (h : WritesFeature e v) :
    e.IsReadAs ⟨e.feature.geometry, allProperties v⟩ := by
  have hown : ownProperties v = e.feature.properties := by
    unfold ownProperties
    rcases h.properties with hsome | ⟨hempty, hnone | hnone⟩
    · rw [hsome]
    · rw [hnone, hempty]
    · rw [hnone, hempty]
  refine ⟨rfl, fun hkept => ?_, fun id hid hnew => ?_⟩
  · cases hid : e.id with
    | none => rw [allProperties, h.id, hid, hown]
    | some id =>
      rw [hid] at hkept
      have hsome := hkept.resolve_left (Option.some_ne_none id)
      rw [allProperties, h.id, hid, hown]
      exact Json.Members.insertNew_of_isSome hsome id
  · have hall : allProperties v = e.feature.properties.insert "id" id := by
      rw [allProperties, h.id, hid, hown]
      exact Json.Members.insertNew_of_eq_none hnew id
    rw [hall]
    exact ⟨Json.Members.find?_insert_self _ _ _,
      fun key hkey => Json.Members.find?_insert_of_ne hkey _ _⟩

theorem decodeValue_of_writes {entries : List Entry} {v : Json} (h : WritesCollection entries v) :
    ∃ features, decodeValue v = .ok features ∧
      List.Forall₂ Entry.IsReadAs entries features := by
  obtain ⟨vs, hvs, hwrites⟩ := h.features
  have hfeatures : ∃ features, List.Forall₂ (fun v f => readFeature v = .ok f) vs features ∧
      List.Forall₂ Entry.IsReadAs entries features := by
    clear h hvs
    induction hwrites with
    | nil => exact ⟨[], .nil, .nil⟩
    | cons hfirst _ ih =>
      obtain ⟨features, hread, hall⟩ := ih
      exact ⟨_ :: features, .cons (readFeature_of_writes hfirst) hread,
        .cons (isReadAs_of_writes hfirst) hall⟩
  obtain ⟨features, hread, hall⟩ := hfeatures
  refine ⟨features, ?_, hall⟩
  have heach : Position.each readFeature vs = .ok features :=
    (readEach_eq_ok_iff readFeature (Position.each readFeature) rfl fun _ _ => rfl).mpr hread
  simp only [decodeValue, typeOf_of_member? h.type, hvs, Position.items, heach, bind, Except.bind,
    if_true]

/-! ## A value for every collection -/

/-- What GeoJSON can hold: no ring of its own, and finite numbers only. -/
structure Entry.Fits (e : Entry) : Prop where
  ownRings : e.feature.ownRings = []
  coords : e.feature.IsFinite
  properties : (Json.object e.feature.properties).IsFinite
  id : ∀ id, e.id = some id → id.IsFinite

theorem writesPosition_toJson (c : Coord) : WritesPosition c c.toJson := .numbers rfl rfl

theorem writesArray_map {α : Type} {write : α → Json → Prop} {f : α → Json}
    (h : ∀ a, write a (f a)) (as : List α) : WritesArray write as (.array (as.map f)) := by
  refine .items (List.forall₂_map_right_iff.mpr ?_)
  exact List.forall₂_same.mpr fun a _ => h a

theorem writesArray_ring (ring : Ring) : WritesArray WritesPosition ring ring.toJson :=
  writesArray_map writesPosition_toJson ring

theorem writesArray_rings (rings : List Ring) :
    WritesArray (WritesArray WritesPosition) rings (Ring.listToJson rings) :=
  writesArray_map writesArray_ring rings

theorem member?_tagged (kind : GeometryKind) (key : String) (hkey : "type" ≠ key) (v : Json) :
    (tagged kind key v).member? "type" = some (.text kind.name) ∧
      (tagged kind key v).member? key = some v := by
  simp only [tagged, Json.member?, Json.Members.find?_cons, if_neg hkey, if_true, and_self]

mutual

theorem writes_toJson (g : Geometry) (h : g.ownRings = []) : Writes g g.toJson := by
  have hcoordinates : ∀ {w : Json}, g.toJson = tagged g.kind "coordinates" w →
      WritesCoordinates g w → Writes g g.toJson := by
    intro w heq hw
    obtain ⟨htype, hmember⟩ := member?_tagged g.kind "coordinates" (by decide) w
    rw [heq]
    exact .coordinates htype hmember hw
  cases g with
  | point c => exact hcoordinates rfl (writesPosition_toJson c)
  | multiPoint cs => exact hcoordinates rfl (writesArray_ring cs)
  | lineString line => exact hcoordinates rfl (writesArray_ring line)
  | linearRing ring => cases h
  | multiLineString lines => exact hcoordinates rfl (writesArray_rings lines)
  | polygon rings => exact hcoordinates rfl (writesArray_rings rings)
  | multiPolygon polygons => exact hcoordinates rfl (writesArray_map writesArray_rings polygons)
  | collection children =>
    obtain ⟨htype, hmember⟩ := member?_tagged .geometryCollection "geometries" (by decide)
      (.array (Geometry.childrenToJson children))
    exact .geometries htype hmember (writes_childrenToJson children h)

theorem writes_childrenToJson (gs : List Geometry) (h : Geometry.ownRingsOfAll gs = []) :
    List.Forall₂ Writes gs (Geometry.childrenToJson gs) := by
  cases gs with
  | nil => exact .nil
  | cons g gs =>
    obtain ⟨hfirst, hrest⟩ := List.append_eq_nil_iff.mp h
    exact .cons (writes_toJson g hfirst) (writes_childrenToJson gs hrest)

end

theorem isFinite_coord {c : Coord} (h : c.IsFinite) : c.toJson.IsFinite :=
  .array (List.forall_mem_cons.mpr ⟨.number h.1, List.forall_mem_singleton.mpr (.number h.2)⟩)

theorem isFinite_ring {ring : Ring} (h : ∀ c ∈ ring, c.IsFinite) : ring.toJson.IsFinite :=
  .array (List.forall_mem_map.mpr fun c hc => isFinite_coord (h c hc))

theorem isFinite_rings {rings : List Ring} (h : ∀ c ∈ rings.flatten, c.IsFinite) :
    (Ring.listToJson rings).IsFinite :=
  .array (List.forall_mem_map.mpr fun _ hring => isFinite_ring fun c hc =>
    h c (List.mem_flatten_of_mem hring hc))

theorem isFinite_tagged {kind : GeometryKind} {key : String} {v : Json} (h : v.IsFinite) :
    (tagged kind key v).IsFinite :=
  .object (List.forall_mem_cons.mpr ⟨.text _, List.forall_mem_singleton.mpr h⟩)

mutual

theorem isFinite_toJson (g : Geometry) (h : g.IsFinite) : g.toJson.IsFinite := by
  cases g with
  | point c => exact isFinite_tagged (isFinite_coord (h c List.mem_cons_self))
  | multiPoint cs => exact isFinite_tagged (isFinite_ring h)
  | lineString line => exact isFinite_tagged (isFinite_ring h)
  | linearRing ring => exact isFinite_tagged (isFinite_ring h)
  | multiLineString lines => exact isFinite_tagged (isFinite_rings h)
  | polygon rings => exact isFinite_tagged (isFinite_rings h)
  | multiPolygon polygons =>
    exact isFinite_tagged (.array (List.forall_mem_map.mpr fun rings hrings =>
      isFinite_rings fun c hc => h c (by
        obtain ⟨ring, hring, hmem⟩ := List.mem_flatten.mp hc
        exact List.mem_flatten_of_mem (List.mem_flatten_of_mem hrings hring) hmem)))
  | collection children => exact isFinite_tagged (.array (isFinite_childrenToJson children h))

theorem isFinite_childrenToJson (gs : List Geometry)
    (h : ∀ c ∈ Geometry.coordsOfAll gs, c.IsFinite) :
    ∀ v ∈ Geometry.childrenToJson gs, v.IsFinite := by
  cases gs with
  | nil => exact fun v hv => absurd hv List.not_mem_nil
  | cons g gs =>
    rw [Geometry.childrenToJson, List.forall_mem_cons]
    exact ⟨isFinite_toJson g fun c hc => h c (List.mem_append_left _ hc),
      isFinite_childrenToJson gs fun c hc => h c (List.mem_append_right _ hc)⟩

end

def Entry.toJson (e : Entry) : Json :=
  .object ([("type", .text "Feature"), ("geometry", (e.feature.geometry.map Geometry.toJson).getD
    .null), ("properties", .object e.feature.properties)] ++ e.id.toList.map fun id => ("id", id))

theorem writesFeature_toJson {e : Entry} (h : e.Fits) : WritesFeature e e.toJson := by
  have hmember : ∀ key, e.toJson.member? key =
      if "type" = key then some (.text "Feature")
      else if "geometry" = key then some ((e.feature.geometry.map Geometry.toJson).getD .null)
      else if "properties" = key then some (.object e.feature.properties)
      else Json.Members.find? key (e.id.toList.map fun id => ("id", id)) := by
    intro key
    simp only [Entry.toJson, Json.member?, List.cons_append, List.nil_append,
      Json.Members.find?_cons]
  refine ⟨by rw [hmember, if_pos rfl], ?_, .inl (by rw [hmember]; rfl), ?_⟩
  · have hgeometry : e.toJson.member? "geometry" =
        some ((e.feature.geometry.map Geometry.toJson).getD .null) := by
      rw [hmember]
      rfl
    have hrings := h.ownRings
    cases hg : e.feature.geometry with
    | none =>
      rw [hg] at hgeometry
      exact .inr hgeometry
    | some g =>
      rw [hg] at hgeometry
      rw [Feature.ownRings, hg, Option.toList_some, List.flatMap_singleton] at hrings
      exact ⟨g.toJson, hgeometry, writes_toJson g hrings⟩
  · rw [hmember]
    cases e.id <;> rfl

theorem isFinite_entry {e : Entry} (h : e.Fits) : e.toJson.IsFinite := by
  refine .object fun m hm => ?_
  rw [List.mem_append, List.mem_map] at hm
  rcases hm with hm | ⟨id, hid, rfl⟩
  · simp only [List.mem_cons, List.not_mem_nil, or_false] at hm
    rcases hm with rfl | rfl | rfl
    · exact .text _
    · have hcoords := h.coords
      cases hg : e.feature.geometry with
      | none => exact .null
      | some g =>
        refine isFinite_toJson g fun c hc => hcoords c ?_
        rw [Feature.coords, hg, Option.toList_some, List.flatMap_singleton]
        exact hc
    · exact h.properties
  · exact h.id id (Option.mem_toList.mp hid)

theorem exists_writesCollection {entries : List Entry} (h : ∀ e ∈ entries, e.Fits) :
    ∃ v : Json, v.IsFinite ∧ WritesCollection entries v := by
  refine ⟨.object [("type", .text "FeatureCollection"),
    ("features", .array (entries.map Entry.toJson))], .object ?_, rfl, _, rfl, ?_⟩
  · exact List.forall_mem_cons.mpr ⟨.text _, List.forall_mem_singleton.mpr
      (.array (List.forall_mem_map.mpr fun e he => isFinite_entry (h e he)))⟩
  · rw [List.forall₂_map_right_iff, List.forall₂_same]
    exact fun e he => writesFeature_toJson (h e he)

/-! ## There and back -/

/-- **Reading what was written.** A list of features without rings of their own and with finite
numbers only is written by some value with finite numbers; and each value that writes it is read as
those features, in their order, with the identifiers beside the properties that had none. -/
theorem decode_collection {entries : List Entry} (h : ∀ e ∈ entries, e.Fits) :
    (∃ v : Json, v.IsFinite ∧ WritesCollection entries v) ∧
      ∀ v, WritesCollection entries v → ∃ features, decodeValue v = .ok features ∧
        List.Forall₂ Entry.IsReadAs entries features :=
  ⟨exists_writesCollection h, fun _ hv => decodeValue_of_writes hv⟩

/-- A point with a height, and a feature without geometry that has an identifier of its own. -/
theorem decode_collection_of_two :
    let point : Geometry := .point ⟨10, 53.5⟩
    let entries : List Entry := [⟨⟨some point, [("name", .text "Yard")]⟩, some (.text "a")⟩,
      ⟨⟨none, [("id", .text "b")]⟩, some .null⟩]
    let position : Json := .array [.number (.whole 10), .number (.double 53.5),
      .number (.whole 7)]
    let first : Json := .object [("id", .text "a"), ("type", .text "Feature"),
      ("geometry", .object [("type", .text "Point"), ("coordinates", position)]),
      ("properties", .object [("name", .text "Yard")])]
    let second : Json := .object [("type", .text "Feature"), ("id", .null),
      ("properties", .object [("id", .text "b")])]
    let v : Json := .object [("type", .text "FeatureCollection"),
      ("features", .array [first, second])]
    (∀ e ∈ entries, e.Fits) ∧ ∃ features, decodeValue v = .ok features ∧
      List.Forall₂ Entry.IsReadAs entries features := by
  intro point entries position first second v
  have hposition : WritesPosition ⟨10, 53.5⟩ position :=
    .numbers (by decide +kernel) (by decide +kernel)
  have hfirst : WritesFeature ⟨⟨some point, [("name", .text "Yard")]⟩, some (.text "a")⟩ first :=
    ⟨rfl, ⟨_, rfl, .coordinates rfl rfl hposition⟩, .inl rfl, rfl⟩
  have hsecond : WritesFeature ⟨⟨none, [("id", .text "b")]⟩, some .null⟩ second :=
    ⟨rfl, .inl rfl, .inl rfl, rfl⟩
  have hfits : ∀ e ∈ entries, e.Fits := by
    have hpoint : point.IsFinite :=
      Geometry.isFinite_point ⟨by decide +kernel, by decide +kernel⟩
    have htext : ∀ key s, (Json.object [(key, .text s)]).IsFinite := fun key s =>
      .object (List.forall_mem_singleton.mpr (.text s))
    refine List.forall_mem_cons.mpr ⟨⟨rfl, Feature.isFinite_some hpoint _, htext _ _, ?_⟩,
      List.forall_mem_singleton.mpr ⟨rfl, Feature.isFinite_none _, htext _ _, ?_⟩⟩
    · rintro id ⟨⟩
      exact .text "a"
    · rintro id ⟨⟩
      exact .null
  exact ⟨hfits, (decode_collection hfits).2 v ⟨rfl, _, rfl, .cons hfirst (.cons hsecond .nil)⟩⟩

end GeoDrafts.GeoJson
