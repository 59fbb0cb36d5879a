import GeoDrafts.Format.Kml
import GeoDrafts.Proofs.Outcome

/-!
The boundaries of KML polygons. The polygons of the features are the polygon elements that are
read, one by one and in the same order, and the rings of each are those of its outer boundaries,
then those of its inner ones. That there is a ring at all is tested, but not that one is an outer
one: an element with inner boundaries only is read too, and its first hole becomes the exterior.
-/

namespace GeoDrafts

namespace Geometry

mutual

def polygons : Geometry → List (List Ring)
  | .polygon rings => [rings]
  | .collection children => polygonsOfAll children
  | _ => []

def polygonsOfAll : List Geometry → List (List Ring)
  | [] => []
  | g :: gs => polygons g ++ polygonsOfAll gs

end

end Geometry

def Feature.polygons (f : Feature) : List (List Ring) := f.geometry.toList.flatMap Geometry.polygons

namespace Kml

open Markup

/-! ## Polygon elements -/

/-- A ring stands in a boundary of a polygon; `boundary` is the name of the boundary. -/
def Bounds (boundary : String) (ring polygon : Element) : Prop :=
  ∃ b ∈ polygon.childrenNamed boundary, ring ∈ b.childrenNamed "LinearRing"

def HasRing (boundary : String) (polygon : Element) : Prop := ∃ ring, Bounds boundary ring polygon

/-- The ring elements in the boundaries with a name. Of each boundary the first ring counts. -/
def ringsIn (boundary : String) (polygon : Element) : List Element :=
  (polygon.childrenNamed boundary).filterMap (·.child? "LinearRing")

theorem boundaries_eq (e : Element) :
    boundaries e = ringsIn "outerBoundaryIs" e ++ ringsIn "innerBoundaryIs" e :=
  List.filterMap_append

section
variable {boundary : String} {ring polygon : Element}

theorem bounds_of_mem_ringsIn (h : ring ∈ ringsIn boundary polygon) :
    Bounds boundary ring polygon := by
  obtain ⟨b, hb, hring⟩ := List.mem_filterMap.mp h
  have hname := List.find?_some (p := fun c : Element => c.name == "LinearRing") hring
  exact ⟨b, hb, List.mem_filter.mpr ⟨List.mem_of_find?_eq_some hring, hname⟩⟩

/-- A boundary with some ring has a first one. -/
theorem ringsIn_eq_nil_iff : ringsIn boundary polygon = [] ↔ ¬ HasRing boundary polygon := by
  constructor
  · rintro hnil ⟨ring, b, hb, hring⟩
    obtain ⟨hchild, hname⟩ := List.mem_filter.mp hring
    have hnone := List.filterMap_eq_nil_iff.mp hnil b hb
    exact absurd hname (by simpa using List.find?_eq_none.mp hnone ring hchild)
  · intro hnone
    rw [List.eq_nil_iff_forall_not_mem]
    exact fun ring hring => hnone ⟨ring, bounds_of_mem_ringsIn hring⟩

end

mutual

/-- The polygon elements that the geometry of an element is read from, in order. -/
def polygonElements (shape : Shape) : Element → List Element
  | ⟨name, attributes, children, rawText⟩ =>
    match shape with
    | .polygon => [⟨name, attributes, children, rawText⟩]
    | .multiGeometry => polygonElementsOfAll children
    | _ => []

def polygonElementsOfAll : List Element → List Element
  | [] => []
  | e :: es =>
    match Shape.ofName? e.name with
    | none => polygonElementsOfAll es
    | some shape => polygonElements shape e ++ polygonElementsOfAll es

end

def firstPolygonElements : List Element → List Element
  | [] => []
  | e :: es =>
    match Shape.ofName? e.name with
    | none => firstPolygonElements es
    | some shape => polygonElements shape e

/-- The polygon elements of a document that are read, in order. -/
def documentPolygons (root : Element) : List Element :=
  (placemarks root).flatMap fun placemark => firstPolygonElements placemark.children

/-! ## Rings of a polygon -/

/-- What is read of a polygon element: the coordinates of the outer rings, then of the inner
ones, and at least one ring. -/
def ReadsPolygon (e : Element) (rings : List Ring) : Prop :=
  rings ≠ [] ∧ List.Forall₂ (fun ring coords => readCoordinates ring = .ok coords)
    (ringsIn "outerBoundaryIs" e ++ ringsIn "innerBoundaryIs" e) rings

/-- The first ring of a polygon is one of an outer boundary of its element. -/
def StartsOutside (e : Element) (rings : List Ring) : Prop :=
  ∃ ring coords, Bounds "outerBoundaryIs" ring e ∧ readCoordinates ring = .ok coords ∧
    rings.head? = some coords

theorem readPolygon_eq_ok_iff {e : Element} {g : Geometry} :
    readPolygon e = .ok g ↔ ∃ rings, ReadsPolygon e rings ∧ g = .polygon rings := by
  have hrings : ∀ {rings}, readRings (boundaries e) = .ok rings ↔
      List.Forall₂ (fun ring coords => readCoordinates ring = .ok coords)
        (ringsIn "outerBoundaryIs" e ++ ringsIn "innerBoundaryIs" e) rings := by
    intro rings
    rw [boundaries_eq]
    exact readEach_eq_ok_iff readCoordinates readRings rfl fun _ _ => rfl
  constructor
  · intro h
    obtain ⟨rings, hread, h⟩ := exists_of_bind h
    split at h
    · cases h
    · rename_i hne
      cases h
      exact ⟨rings, ⟨hne, hrings.mp hread⟩, rfl⟩
  · rintro ⟨rings, ⟨hne, hread⟩, rfl⟩
    rw [readPolygon, hrings.mpr hread]
    cases rings with
    | nil => exact absurd rfl hne
    | cons ring rings => rfl

/-- A polygon that was read starts with an outer ring just if its element has one. -/
theorem ReadsPolygon.startsOutside_iff {e : Element} {rings : List Ring}
    (h : ReadsPolygon e rings) : StartsOutside e rings ↔ HasRing "outerBoundaryIs" e := by
  constructor
  · rintro ⟨ring, coords, hring, -, -⟩
    exact ⟨ring, hring⟩
  · intro houter
    have hne : ringsIn "outerBoundaryIs" e ≠ [] := fun hnil => ringsIn_eq_nil_iff.mp hnil houter
    obtain ⟨ring, more, hsplit⟩ := List.exists_cons_of_ne_nil hne
    have hread := h.2
    rw [hsplit, List.cons_append] at hread
    cases hread with
    | cons hcoords _ =>
      exact ⟨ring, _, bounds_of_mem_ringsIn (by rw [hsplit]; exact List.mem_cons_self),
        hcoords, rfl⟩

/-- A polygon that was read has a ring of some boundary. -/
theorem ReadsPolygon.exists_bounds {e : Element} {rings : List Ring} (h : ReadsPolygon e rings)
    (houter : ¬ HasRing "outerBoundaryIs" e) : HasRing "innerBoundaryIs" e := by
  by_contra hinner
  have hread := h.2
  rw [ringsIn_eq_nil_iff.mpr houter, ringsIn_eq_nil_iff.mpr hinner] at hread
  cases hread
  exact h.1 rfl

/-! ## Polygons of a document -/

mutual

theorem polygons_of_readGeometry (shape : Shape) (e : Element) {g : Geometry}
    (h : readGeometry shape e = .ok g) :
    List.Forall₂ ReadsPolygon (polygonElements shape e) g.polygons := by
  match e with
  | ⟨name, attributes, children, rawText⟩ =>
    unfold readGeometry at h
    unfold polygonElements
    dsimp only at h
    split at h
    · obtain ⟨ring, -, h⟩ := exists_of_bind h
      split at h
      · cases h
      · cases h
        exact .nil
    · obtain ⟨line, -, rfl⟩ := exists_of_map h
      exact .nil
    · obtain ⟨ring, -, rfl⟩ := exists_of_map h
      exact .nil
    · obtain ⟨rings, hrings, rfl⟩ := readPolygon_eq_ok_iff.mp h
      exact .cons hrings .nil
    · obtain ⟨gs, hgs, rfl⟩ := exists_of_map h
      exact polygons_of_readGeometries children hgs

theorem polygons_of_readGeometries (es : List Element) {gs : List Geometry}
    (h : readGeometries es = .ok gs) :
    List.Forall₂ ReadsPolygon (polygonElementsOfAll es) (Geometry.polygonsOfAll gs) := by
  match es with
  | [] =>
    unfold readGeometries at h
    cases h
    exact .nil
  | e :: es =>
    unfold readGeometries at h
    unfold polygonElementsOfAll
    cases hshape : Shape.ofName? e.name with
    | none =>
      rw [hshape] at h
      exact polygons_of_readGeometries es h
    | some shape =>
      rw [hshape] at h
      obtain ⟨g, hg, h⟩ := exists_of_bind h
      obtain ⟨gs, hgs, h⟩ := exists_of_bind h
      cases h
      exact List.rel_append (polygons_of_readGeometry _ e hg) (polygons_of_readGeometries es hgs)

end

theorem polygons_of_firstGeometry {es : List Element} {geometry : Option Geometry}
    (h : firstGeometry? es = .ok geometry) :
    List.Forall₂ ReadsPolygon (firstPolygonElements es)
      (geometry.toList.flatMap Geometry.polygons) := by
  induction es with
  | nil =>
    cases h
    exact .nil
  | cons e es ih =>
    unfold firstGeometry? at h
    unfold firstPolygonElements
    cases hshape : Shape.ofName? e.name with
    | none =>
      rw [hshape] at h
      exact ih h
    | some shape =>
      rw [hshape] at h
      obtain ⟨g, hg, rfl⟩ := exists_of_map h
      rw [Option.toList_some, List.flatMap_singleton]
      exact polygons_of_readGeometry shape e hg

theorem decode_of_read {text : String} {root : Element} (h : Element.read text = .ok root) :
    decode text = readPlacemarks (placemarks root) := by
  rw [decode, h]
  rfl

/-- The polygons of an accepted document are its polygon elements, one by one. -/
theorem polygons_of_decode {text : String} {root : Element} (h : Element.read text = .ok root)
    {features : List Feature} (hdecode : decode text = .ok features) :
    List.Forall₂ ReadsPolygon (documentPolygons root) (features.flatMap Feature.polygons) := by
  rw [decode_of_read h] at hdecode
  have heach := (readEach_eq_ok_iff readPlacemark readPlacemarks rfl fun _ _ => rfl).mp hdecode
  refine List.rel_flatMap heach fun placemark feature hfeature => ?_
  obtain ⟨geometry, hgeometry, hfeature⟩ := exists_of_bind hfeature
  cases hfeature
  exact polygons_of_firstGeometry hgeometry

/-- **Exteriors of polygons.** In a document all polygons start with an outer ring of their
elements, and a polygon element without an outer ring makes reading fail, just if reading fails
for elements that have inner rings only. Without any ring it always fails. -/
theorem outer_ring_first_iff {text : String} {root : Element} (h : Element.read text = .ok root) :
    (((∀ features, decode text = .ok features →
          List.Forall₂ StartsOutside (documentPolygons root)
            (features.flatMap Feature.polygons)) ∧
        ∀ e ∈ documentPolygons root, ¬ HasRing "outerBoundaryIs" e →
          ∃ fault, decode text = .error fault) ↔
      ∀ e ∈ documentPolygons root, ¬ HasRing "outerBoundaryIs" e →
        HasRing "innerBoundaryIs" e → ∃ fault, decode text = .error fault) ∧
    ∀ features, decode text = .ok features →
      List.Forall₂ ReadsPolygon (documentPolygons root) (features.flatMap Feature.polygons) := by
  refine ⟨⟨fun hall e he houter _ => hall.2 e he houter, fun hinner => ?_⟩,
    fun features hdecode => polygons_of_decode h hdecode⟩
  cases hdecode : decode text with
  | error fault =>
    refine ⟨fun features hok => ?_, fun _ _ _ => ⟨fault, rfl⟩⟩
    cases hok
  | ok features =>
    have hread := polygons_of_decode h hdecode
    have hmem := (List.forall₂_and_left (documentPolygons root) _).mpr ⟨fun _ he => he, hread⟩
    have hboth : List.Forall₂
        (fun e rings => HasRing "outerBoundaryIs" e ∧ StartsOutside e rings)
        (documentPolygons root) (features.flatMap Feature.polygons) := by
      refine hmem.imp fun e rings ⟨he, hreads⟩ => ?_
      have houter : HasRing "outerBoundaryIs" e := by
        by_contra hnone
        obtain ⟨fault, hfault⟩ := hinner e he hnone (hreads.exists_bounds hnone)
        rw [hdecode] at hfault
        cases hfault
      exact ⟨houter, hreads.startsOutside_iff.mpr houter⟩
    obtain ⟨houter, hstarts⟩ := (List.forall₂_and_left _ _).mp hboth
    refine ⟨fun features' hok => ?_, fun e he hnone => absurd (houter e he) hnone⟩
    cases hok
    exact hstarts

/-- A polygon inside two collections whose hole is written before its exterior. -/
theorem outer_ring_first_of_late_exterior :
    let text := "<kml><Placemark><MultiGeometry><MultiGeometry><Polygon>" ++
      "<innerBoundaryIs><LinearRing><coordinates>2,2 3,2 2,2</coordinates></LinearRing>" ++
      "</innerBoundaryIs>" ++
      "<outerBoundaryIs><LinearRing><coordinates>0,0 9,0 0,0</coordinates></LinearRing>" ++
      "</outerBoundaryIs></Polygon></MultiGeometry></MultiGeometry></Placemark></kml>"
    ∃ root features, Element.read text = .ok root ∧ decode text = .ok features ∧
      (documentPolygons root).length = 1 ∧
      List.Forall₂ StartsOutside (documentPolygons root) (features.flatMap Feature.polygons) := by
  intro text
  have hread : ((Element.read text).bind fun root => (readPlacemarks (placemarks root)).map
      fun _ => ((documentPolygons root).length,
        (documentPolygons root).all fun e => !(ringsIn "outerBoundaryIs" e).isEmpty)) =
      .ok (1, true) := by
    decide +kernel
  obtain ⟨root, h, hread⟩ := exists_of_bind hread
  obtain ⟨features, hfeatures, hpair⟩ := exists_of_map hread
  obtain ⟨hlength, hall⟩ := Prod.mk.inj hpair
  have hdecode := (decode_of_read h).trans hfeatures
  refine ⟨root, features, h, hdecode, hlength,
    ((outer_ring_first_iff h).1.mpr fun e he hnone => ?_).1 features hdecode⟩
  have houter := List.all_eq_true.mp hall e he
  rw [ringsIn_eq_nil_iff.mpr hnone] at houter
  cases houter

/-- A polygon element with an inner boundary only is read as a polygon whose exterior is the
hole. -/
theorem hole_read_as_exterior :
    let text := "<kml><Placemark><Polygon><innerBoundaryIs><LinearRing>" ++
      "<coordinates>0,0 1,0 1,1 0,0</coordinates>" ++
      "</LinearRing></innerBoundaryIs></Polygon></Placemark></kml>"
    ∃ root features, Element.read text = .ok root ∧ decode text = .ok features ∧
      (∃ e ∈ documentPolygons root, ¬ HasRing "outerBoundaryIs" e) ∧
      ¬ List.Forall₂ StartsOutside (documentPolygons root)
        (features.flatMap Feature.polygons) := by
  intro text
  have hread : ((Element.read text).bind fun root => (readPlacemarks (placemarks root)).map
      fun _ => (documentPolygons root).map fun e => (ringsIn "outerBoundaryIs" e).length) =
      .ok [0] := by
    decide +kernel
  obtain ⟨root, h, hread⟩ := exists_of_bind hread
  obtain ⟨features, hfeatures, hlengths⟩ := exists_of_map hread
  have hdecode := (decode_of_read h).trans hfeatures
  obtain ⟨e, more, helements, hnone, -⟩ := List.map_eq_cons_iff.mp hlengths
  have houter := ringsIn_eq_nil_iff.mp (List.length_eq_zero_iff.mp hnone)
  refine ⟨root, features, h, hdecode, ⟨e, ?_, houter⟩, fun hstarts => ?_⟩
  · rw [helements]
    exact List.mem_cons_self
  · rw [helements] at hstarts
    obtain ⟨rings, others, ⟨ring, coords, hring, -, -⟩, -, -⟩ :=
      List.forall₂_cons_left_iff.mp hstarts
    exact houter ⟨ring, hring⟩

end Kml

end GeoDrafts
