import GeoDrafts.Proofs.Format.GeoJson.RoundTrip

/-!
Two readers of one notation. The record of a polygon is a GeoJSON geometry, and GeoJSON reads it as
the same polygon. The record can also name its kind by an object of one member, which GeoJSON takes
for no kind.
-/

namespace GeoDrafts

namespace Json

/-! ## Values as documents -/

theorem toDocuments_eq_map (vs : List Json) : toDocuments vs = vs.map toDocument := by
  induction vs with
  | nil => rfl
  | cons v vs ih => rw [toDocuments, ih, List.map_cons]

theorem memberDocuments_eq_map (members : Members) :
    memberDocuments members = members.map fun m => (some m.1, m.2.toDocument) := by
  induction members with
  | nil => rfl
  | cons m members ih => rw [memberDocuments, ih, List.map_cons]

theorem mapM_eq_some_iff {α β : Type} {f : α → Option β} {as : List α} {bs : List β} :
    as.mapM f = some bs ↔ List.Forall₂ (fun a b => f a = some b) as bs := by
  induction as generalizing bs with
  | nil => simp [eq_comm]
  | cons a as ih =>
    rw [List.mapM_cons]
    constructor
    · intro h
      obtain ⟨b, hb, h⟩ := Option.bind_eq_some_iff.mp h
      obtain ⟨bs', hbs, h⟩ := Option.bind_eq_some_iff.mp h
      cases h
      exact .cons hb (ih.mp hbs)
    · rintro (_ | ⟨hb, hbs⟩)
      rw [hb, ih.mpr hbs]
      rfl

namespace Document

variable {members : Members} {v : Document}

theorem field?_eq_some {key : String}
    (h : field? (members.map fun m => (m.1, m.2.toDocument)) key = some (some v)) :
    ∃ u, members.find? key = some u ∧ v = u.toDocument := by
  unfold field? at h
  rw [List.filter_map] at h
  split at h
  · cases h
  · rename_i m hm
    obtain ⟨m', hm', rfl⟩ := List.map_eq_singleton_iff.mp hm
    cases h
    refine ⟨m'.2, ?_, rfl⟩
    rw [Members.find?, ← List.head?_filter]
    have hfilter : members.filter (fun m => m.1 == key) = [m'] := hm'
    rw [hfilter]
    rfl
  · cases h

theorem fields_of_record? {names : List String} {fields : List Document}
    (h : (Json.object members).toDocument.record? names = some (fields.map some)) :
    List.Forall₂ (fun key d => ∃ u, members.find? key = some u ∧ d = u.toDocument) names
      fields := by
  have hmembers : (memberDocuments members).mapM (fun m => m.1.map fun key => (key, m.2)) =
      some (members.map fun m => (m.1, m.2.toDocument)) := by
    rw [memberDocuments_eq_map, mapM_eq_some_iff, List.forall₂_map_left_iff,
      List.forall₂_map_right_iff, List.forall₂_same]
    exact fun _ _ => rfl
  rw [toDocument, record?, hmembers] at h
  exact (List.forall₂_map_right_iff.mp (mapM_eq_some_iff.mp h)).imp fun _ _ => field?_eq_some

end Document

end Json

open Json

namespace GeoJson

theorem float?_of_document {v : Json} {x : Float} (h : v.toDocument.float? = some x) :
    v.float? = some x := by
  cases v with
  | number n =>
    obtain ⟨-, hx⟩ := Option.ite_none_right_eq_some.mp h
    exact hx
  | _ => cases h

theorem writesPosition_of_document {v : Json} {c : Coord}
    (h : Coord.ofDocument? v.toDocument = some c) : WritesPosition c v := by
  cases v with
  | array items =>
    obtain _ | ⟨x, _ | ⟨y, _ | ⟨z, more⟩⟩⟩ := items
    · cases h
    · cases h
    · obtain ⟨cx, hx, h⟩ := Option.bind_eq_some_iff.mp h
      obtain ⟨cy, hy, h⟩ := Option.bind_eq_some_iff.mp h
      cases h
      exact .numbers (float?_of_document hx) (float?_of_document hy)
    · cases h
  | _ => cases h

theorem writesArray_of_document {α : Type} {read : Document → Option α} {write : α → Json → Prop}
    (hread : ∀ {v : Json} {a : α}, read v.toDocument = some a → write a v) {v : Json} {as : List α}
    (h : v.toDocument.list? read = some as) : WritesArray write as v := by
  cases v with
  | array items =>
    rw [toDocument, Document.list?, toDocuments_eq_map, mapM_eq_some_iff,
      List.forall₂_map_left_iff] at h
    exact .items (h.flip.imp fun _ _ => hread)
  | _ => cases h

theorem writesRing_of_document {v : Json} {ring : Ring}
    (h : Ring.ofDocument? v.toDocument = some ring) : WritesArray WritesPosition ring v :=
  writesArray_of_document writesPosition_of_document h

theorem kind_of_document {v : Json} {kind : GeometryKind}
    (h : PolygonGeometry.kindOfDocument? true v.toDocument = some kind) :
    v = .text kind.name ∨ v = .object [(kind.name, .null)] := by
  have hname : ∀ {name}, PolygonGeometry.kindOfName? name = some kind → name = kind.name := by
    intro name h
    unfold PolygonGeometry.kindOfName? at h
    split at h
    · rename_i heq
      cases h
      exact heq
    · split at h
      · rename_i heq
        cases h
        exact heq
      · cases h
  cases v with
  | text name => exact .inl (congrArg Json.text (hname h))
  | object members =>
    obtain _ | ⟨⟨name, w⟩, _ | ⟨m, more⟩⟩ := members
    · cases h
    · cases w with
      | null => exact .inr (by rw [hname h])
      | _ => cases h
    · cases w <;> cases h
  | _ => cases h

/-- What the record of a polygon holds. -/
theorem exists_of_document {members : Members} {g : PolygonGeometry}
    (h : PolygonGeometry.ofDocument? (Json.object members).toDocument = some g) :
    ∃ kind content, members.find? "type" = some kind ∧
      members.find? "coordinates" = some content ∧
      (kind = .text g.kind.name ∨ kind = .object [(g.kind.name, .null)]) ∧
      WritesCoordinates g.toGeometry content := by
  obtain ⟨fields, hfields, hread⟩ := Option.bind_eq_some_iff.mp h
  split at hread
  · rename_i kind content
    obtain ⟨k, hk, hcontent⟩ := Option.bind_eq_some_iff.mp hread
    have hrecord : (Json.object members).toDocument.record? ["type", "coordinates"] =
        some ([kind, content].map some) := hfields
    obtain _ | ⟨⟨u, htype, rfl⟩, _ | ⟨⟨w, hcoordinates, rfl⟩, _⟩⟩ :=
      Document.fields_of_record? hrecord
    have hkind := kind_of_document hk
    split at hcontent
    · obtain ⟨rings, hrings, rfl⟩ := Option.map_eq_some_iff.mp hcontent
      exact ⟨u, w, htype, hcoordinates, hkind,
        writesArray_of_document writesRing_of_document hrings⟩
    · obtain ⟨polygons, hpolygons, rfl⟩ := Option.map_eq_some_iff.mp hcontent
      exact ⟨u, w, htype, hcoordinates, hkind,
        writesArray_of_document (writesArray_of_document writesRing_of_document) hpolygons⟩
    · cases hcontent
  · cases hread

theorem decodeValue_of_writes_polygon {v : Json} {g : PolygonGeometry}
    (h : Writes g.toGeometry v) : decodeValue v = .ok [⟨some g.toGeometry, []⟩] := by
  have hread := readGeometry_of_writes _ h
  have htype : v.member? "type" = some (.text g.kind.name) := by
    cases g <;> cases h <;> assumption
  have hname : g.kind.name ≠ "FeatureCollection" ∧ g.kind.name ≠ "Feature" := by
    cases g <;> simp [PolygonGeometry.kind, PolygonGeometry.toGeometry, Geometry.kind,
      GeometryKind.name]
  simp only [decodeValue, typeOf_of_member? htype, bind, Except.bind, hname.1, hname.2, hread,
    if_false]
  rfl

/-! ## The record of a polygon -/

theorem coord_of_toJson {c : Coord} (h : c.IsFinite) :
    Coord.ofDocument? c.toJson.toDocument = some c := by
  have hfloat : ∀ {x : Float}, x.isFinite = true →
      Document.float? (.number (some (.double x))) = some x := fun hx => if_pos hx
  simp only [Coord.toJson, toDocument, toDocuments, Coord.ofDocument?, hfloat h.1, hfloat h.2]
  rfl

theorem list?_of_toJson {α : Type} {read : Document → Option α} {write : α → Json} {as : List α}
    (h : ∀ a ∈ as, read (write a).toDocument = some a) :
    Document.list? read (Json.array (as.map write)).toDocument = some as := by
  rw [toDocument, Document.list?, toDocuments_eq_map, mapM_eq_some_iff, List.map_map,
    List.forall₂_map_left_iff, List.forall₂_same]
  exact h

theorem ring_of_toJson {ring : Ring} (h : ∀ c ∈ ring, c.IsFinite) :
    Ring.ofDocument? ring.toJson.toDocument = some ring :=
  list?_of_toJson fun c hc => coord_of_toJson (h c hc)

theorem rings_of_toJson {rings : List Ring} (h : ∀ ring ∈ rings, ∀ c ∈ ring, c.IsFinite) :
    Document.list? Ring.ofDocument? (Ring.listToJson rings).toDocument = some rings :=
  list?_of_toJson fun ring hring => ring_of_toJson (h ring hring)

theorem record?_tagged (kind : GeometryKind) (w : Json) :
    (tagged kind "coordinates" w).toDocument.record? ["type", "coordinates"] =
      some [some (.text kind.name), some w.toDocument] := rfl

/-- The record of a polygon with finite coordinates holds that polygon. -/
theorem ofDocument?_toJson {g : PolygonGeometry} (h : ∀ c ∈ g.coords, c.IsFinite) :
    PolygonGeometry.ofDocument? g.toJson.toDocument = some g := by
  cases g with
  | polygon rings =>
    have hrings : Document.list? Ring.ofDocument? (Ring.listToJson rings).toDocument = some rings :=
      rings_of_toJson fun ring hring c hc => h c (by
        rw [PolygonGeometry.coords, PolygonGeometry.polygons, List.flatten_singleton]
        exact List.mem_flatten_of_mem hring hc)
    rw [PolygonGeometry.ofDocument?, PolygonGeometry.toJson, PolygonGeometry.toGeometry,
      Geometry.toJson, record?_tagged]
    exact congrArg (Option.map PolygonGeometry.polygon) hrings
  | multiPolygon polygons =>
    have hpolygons : Document.list? (Document.list? Ring.ofDocument?)
        (Ring.polygonsToJson polygons).toDocument = some polygons :=
      list?_of_toJson fun rings hrings => rings_of_toJson fun ring hring c hc => h c (by
        rw [PolygonGeometry.coords, PolygonGeometry.polygons]
        exact List.mem_flatten_of_mem (List.mem_flatten_of_mem hrings hring) hc)
    rw [PolygonGeometry.ofDocument?, PolygonGeometry.toJson, PolygonGeometry.toGeometry,
      Geometry.toJson, record?_tagged]
    exact congrArg (Option.map PolygonGeometry.multiPolygon) hpolygons

theorem normalizeAll_polygon {g : PolygonGeometry} (h : g.coords ≠ []) :
    Feature.normalizeAll [⟨some g.toGeometry, []⟩] = [⟨g, []⟩] := by
  have hsome : g.nonEmpty? = some g := by
    rw [PolygonGeometry.nonEmpty?, if_neg (by rwa [List.isEmpty_iff])]
  have hareas : g.toGeometry.areas = [g] := by
    cases g with
    | _ => rw [PolygonGeometry.toGeometry, Geometry.areas, hsome, Option.toList_some]
  simp [Feature.normalizeAll, Feature.normalize, hareas]

/-- **Two readers of one notation.** Where the record of a polygon names its kind by a text, GeoJSON
reads the same object as one feature of that polygon; else it misses the type, which is an object of
one member without a value. A polygon with finite coordinates, of which there are some, comes back
from what is written of it, as the only area. -/
theorem record_read_as_geojson :
    (∀ (members : Members) (g : PolygonGeometry),
      PolygonGeometry.ofDocument? (Json.object members).toDocument = some g →
        ((∃ name, members.find? "type" = some (.text name)) →
          decodeValue (.object members) = .ok [⟨some g.toGeometry, []⟩]) ∧
        ((¬ ∃ name, members.find? "type" = some (.text name)) →
          members.find? "type" = some (.object [(g.kind.name, .null)]) ∧
          decodeValue (.object members) = .error (.document .missingType))) ∧
    ∀ g : PolygonGeometry, (∀ c ∈ g.coords, c.IsFinite) → g.coords ≠ [] →
      PolygonGeometry.ofDocument? g.toJson.toDocument = some g ∧
      ∃ features, decodeValue g.toJson = .ok features ∧
        Feature.normalizeAll features = [⟨g, []⟩] := by
  refine ⟨fun members g h => ?_, fun g hfinite hne => ⟨ofDocument?_toJson hfinite, ?_⟩⟩
  · obtain ⟨kind, content, htype, hcoordinates, hkind, hcontent⟩ := exists_of_document h
    refine ⟨fun ⟨name, hname⟩ => ?_, fun hno => ?_⟩
    · rcases hkind with rfl | rfl
      · exact decodeValue_of_writes_polygon (.coordinates htype hcoordinates hcontent)
      · rw [htype] at hname
        cases hname
    · rcases hkind with rfl | rfl
      · exact absurd ⟨_, htype⟩ hno
      · refine ⟨htype, ?_⟩
        rw [decodeValue, typeOf, htype]
        rfl
  · have hwrites := writes_toJson g.toGeometry (by cases g <;> rfl)
    exact ⟨_, decodeValue_of_writes_polygon hwrites, normalizeAll_polygon hne⟩

/-- A polygon whose kind is written last, as a text and as an object. -/
theorem record_read_as_geojson_kind_last :
    let g : PolygonGeometry := .polygon [[⟨1, 2.5⟩]]
    let coordinates : Json := .array [.array [.array [.number (.whole 1), .number (.double 2.5)]]]
    let record (kind : Json) : Members :=
      [("note", .null), ("coordinates", coordinates), ("type", kind)]
    decodeValue (.object (record (.text "Polygon"))) = .ok [⟨some g.toGeometry, []⟩] ∧
      decodeValue (.object (record (.object [("Polygon", .null)]))) =
        .error (.document .missingType) ∧
      ∃ features, decodeValue g.toJson = .ok features ∧
        Feature.normalizeAll features = [⟨g, []⟩] := by
  intro g coordinates record
  have hg : g.coords = [⟨1, 2.5⟩] := rfl
  have hfinite : ∀ c ∈ g.coords, c.IsFinite := by
    rw [hg, List.forall_mem_singleton]
    exact ⟨by decide +kernel, by decide +kernel⟩
  have htext : PolygonGeometry.ofDocument?
      (Json.object (record (.text "Polygon"))).toDocument = some g := by decide +kernel
  have hobject : PolygonGeometry.ofDocument?
      (Json.object (record (.object [("Polygon", .null)]))).toDocument = some g := by
    decide +kernel
  have hno : ¬ ∃ name, (record (.object [("Polygon", .null)])).find? "type" =
      some (.text name) := by
    rintro ⟨name, hname⟩
    cases hname
  exact ⟨(record_read_as_geojson.1 _ g htext).1 ⟨"Polygon", rfl⟩,
    ((record_read_as_geojson.1 _ g hobject).2 hno).2,
    (record_read_as_geojson.2 g hfinite (by rw [hg]; exact List.cons_ne_nil _ _)).2⟩

/-- The record can be read where GeoJSON finds no type. -/
theorem record_not_read_as_geojson :
    ¬ ∀ (members : Members) (g : PolygonGeometry),
      PolygonGeometry.ofDocument? (Json.object members).toDocument = some g →
        ∃ f, decodeValue (.object members) = .ok [f] ∧ f.geometry = some g.toGeometry := by
  intro h
  let coordinates : Json := .array [.array [.array [.number (.whole 1), .number (.whole 2)]]]
  obtain ⟨f, hf, -⟩ := h [("coordinates", coordinates), ("type", .object [("Polygon", .null)])]
    (.polygon [[⟨1, 2⟩]]) (by decide +kernel)
  cases hf

end GeoJson

end GeoDrafts
