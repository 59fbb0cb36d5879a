import GeoDrafts.Format.Kml
import GeoDrafts.Proofs.Markup.Preorder

/-!
The placemarks of a KML document. Each placemark, the root and those in other placemarks included,
gives one feature, in document order, or the document cannot be read. A feature has the first
geometry among the children of its placemark. Placemarks in it do not count: the geometry is the
same if they are cut out.
-/

namespace GeoDrafts.Kml

open Markup Element

/-! ## The first geometry -/

/-- What is read as the first geometry among elements, if there is one. -/
inductive FirstGeometry (es : List Element) : Option Geometry → Prop
  | none (h : ∀ e ∈ es, Shape.ofName? e.name = none) : FirstGeometry es none
  | some {before after : List Element} {e : Element} {shape : Shape} {g : Geometry}
    (hsplit : es = before ++ e :: after) (hbefore : ∀ b ∈ before, Shape.ofName? b.name = none)
    (hshape : Shape.ofName? e.name = some shape) (hread : readGeometry shape e = .ok g) :
    FirstGeometry es (some g)

theorem firstGeometry?_of_none {e : Element} (h : Shape.ofName? e.name = none)
    (es : List Element) : firstGeometry? (e :: es) = firstGeometry? es := by
  simp only [h, firstGeometry?]

theorem firstGeometry?_of_some {e : Element} {shape : Shape}
    (h : Shape.ofName? e.name = some shape) (es : List Element) :
    firstGeometry? (e :: es) = (readGeometry shape e).map some := by
  simp only [h, firstGeometry?]

theorem firstGeometry?_eq_ok_iff {es : List Element} {g : Option Geometry} :
    firstGeometry? es = .ok g ↔ FirstGeometry es g := by
  constructor
  · intro h
    induction es generalizing g with
    | nil =>
      cases h
      exact .none (List.forall_mem_nil _)
    | cons e es ih =>
      cases hshape : Shape.ofName? e.name with
      | some shape =>
        rw [firstGeometry?_of_some hshape] at h
        obtain ⟨g, hg, rfl⟩ := exists_of_map h
        exact .some (List.nil_append _).symm (List.forall_mem_nil _) hshape hg
      | none =>
        rw [firstGeometry?_of_none hshape] at h
        cases ih h with
        | none hall => exact .none (List.forall_mem_cons.mpr ⟨hshape, hall⟩)
        | some hsplit hbefore hfirst hread =>
          exact .some (congrArg (e :: ·) hsplit) (List.forall_mem_cons.mpr ⟨hshape, hbefore⟩) hfirst
            hread
  · intro h
    cases h with
    | none hall =>
      induction es with
      | nil => rfl
      | cons e es ih =>
        obtain ⟨he, hes⟩ := List.forall_mem_cons.mp hall
        rw [firstGeometry?_of_none he, ih hes]
    | @some before after e shape g hsplit hbefore hshape hread =>
      subst hsplit
      induction before with
      | nil =>
        rw [List.nil_append, firstGeometry?_of_some hshape, hread]
        rfl
      | cons b before ih =>
        obtain ⟨hb, hbefore⟩ := List.forall_mem_cons.mp hbefore
        rw [List.cons_append, firstGeometry?_of_none hb, ih hbefore]

theorem readPlacemark_eq_ok_iff {e : Element} {f : Feature} :
    readPlacemark e = .ok f ↔
      FirstGeometry e.children f.geometry ∧ f.properties = Json.ofTexts (propertyTexts e) := by
  rw [← firstGeometry?_eq_ok_iff]
  constructor
  · intro h
    obtain ⟨g, hg, h⟩ := exists_of_bind h
    cases h
    exact ⟨hg, rfl⟩
  · rintro ⟨hg, hproperties⟩
    obtain ⟨g, properties⟩ := f
    rw [readPlacemark, hg]
    subst hproperties
    rfl

/-! ## Other placemarks -/

mutual

/-- An element from which all placemarks in it are cut out. -/
def pruned : Element → Element
  | ⟨name, attributes, children, rawText⟩ => ⟨name, attributes, prunedAll children, rawText⟩

def prunedAll : List Element → List Element
  | [] => []
  | e :: es => if e.name = "Placemark" then prunedAll es else pruned e :: prunedAll es

end

theorem pruned_eq (e : Element) : pruned e = { e with children := prunedAll e.children } := by
  cases e
  rw [pruned]

theorem prunedAll_eq (es : List Element) :
    prunedAll es = (es.filter fun e => e.name != "Placemark").map pruned := by
  induction es with
  | nil => rw [prunedAll]; rfl
  | cons e es ih =>
    rw [prunedAll, List.filter_cons, ih]
    by_cases hname : e.name = "Placemark" <;> simp [hname]

theorem name_pruned (e : Element) : (pruned e).name = e.name := by rw [pruned_eq]

theorem text_pruned (e : Element) : (pruned e).text = e.text := by rw [pruned_eq]; rfl

section
variable {name : String} (hname : name ≠ "Placemark") (e : Element)
include hname

theorem childrenNamed_pruned :
    (pruned e).childrenNamed name = (e.childrenNamed name).map pruned := by
  have hchildren : (pruned e).children = prunedAll e.children := by rw [pruned_eq]
  rw [childrenNamed, childrenNamed, hchildren, prunedAll_eq, List.filter_map, List.filter_filter]
  congr 1
  refine List.filter_congr fun c _ => ?_
  rw [Function.comp_apply, name_pruned]
  by_cases hc : c.name = name <;> simp [hc, hname]

theorem child?_pruned : (pruned e).child? name = (e.child? name).map pruned := by
  have hhead : ∀ e : Element, e.child? name = (e.childrenNamed name).head? :=
    fun e => (List.head?_filter).symm
  rw [hhead, hhead, childrenNamed_pruned hname, List.head?_map]

end

theorem readCoordinates_pruned (e : Element) : readCoordinates (pruned e) = readCoordinates e := by
  rw [readCoordinates, readCoordinates, child?_pruned (by decide)]
  cases e.child? "coordinates" with
  | none => rfl
  | some c => rw [Option.map_some]; simp only [text_pruned]

theorem readRings_pruned (es : List Element) : readRings (es.map pruned) = readRings es := by
  induction es with
  | nil => rfl
  | cons e es ih => rw [List.map_cons, readRings, readRings, readCoordinates_pruned, ih]

theorem boundaries_pruned (e : Element) : boundaries (pruned e) = (boundaries e).map pruned := by
  have hring : ∀ e : Element, (pruned e).child? "LinearRing" = (e.child? "LinearRing").map pruned :=
    fun e => child?_pruned (by decide) e
  rw [boundaries, boundaries, childrenNamed_pruned (by decide), childrenNamed_pruned (by decide),
    ← List.map_append, List.filterMap_map, List.map_filterMap]
  exact List.filterMap_congr fun b _ => hring b

theorem readPoint_pruned (e : Element) : readPoint (pruned e) = readPoint e := by
  rw [readPoint, readPoint, readCoordinates_pruned]

theorem readPolygon_pruned (e : Element) : readPolygon (pruned e) = readPolygon e := by
  rw [readPolygon, readPolygon, boundaries_pruned, readRings_pruned]

/-- A placemark is no geometry, so cutting it out changes no list of geometries. -/
theorem ofName?_placemark {e : Element} (h : e.name = "Placemark") :
    Shape.ofName? e.name = none := by
  rw [h]
  rfl

mutual

theorem readGeometry_pruned (shape : Shape) (e : Element) :
    readGeometry shape (pruned e) = readGeometry shape e := by
  match e with
  | ⟨name, attributes, children, rawText⟩ =>
    cases shape with
    | point => exact readPoint_pruned ⟨name, attributes, children, rawText⟩
    | lineString =>
      exact congrArg (Except.map _) (readCoordinates_pruned ⟨name, attributes, children, rawText⟩)
    | linearRing =>
      exact congrArg (Except.map _) (readCoordinates_pruned ⟨name, attributes, children, rawText⟩)
    | polygon => exact readPolygon_pruned ⟨name, attributes, children, rawText⟩
    | multiGeometry => exact congrArg (Except.map _) (readGeometries_pruned children)

theorem readGeometries_pruned (es : List Element) :
    readGeometries (prunedAll es) = readGeometries es := by
  match es with
  | [] => rfl
  | e :: es =>
    rw [prunedAll]
    split
    · rename_i hname
      rw [readGeometries_pruned es, readGeometries, ofName?_placemark hname]
    · rw [readGeometries, readGeometries, name_pruned, readGeometries_pruned es]
      cases Shape.ofName? e.name with
      | none => rfl
      | some shape =>
        dsimp only
        rw [readGeometry_pruned shape e]

end

theorem firstGeometry?_pruned (es : List Element) :
    firstGeometry? (prunedAll es) = firstGeometry? es := by
  induction es with
  | nil => rfl
  | cons e es ih =>
    rw [prunedAll]
    split
    · rename_i hname
      rw [ih, firstGeometry?_of_none (ofName?_placemark hname)]
    · cases hshape : Shape.ofName? e.name with
      | none =>
        rw [firstGeometry?_of_none hshape, firstGeometry?_of_none ((name_pruned e).symm ▸ hshape),
          ih]
      | some shape =>
        rw [firstGeometry?_of_some hshape,
          firstGeometry?_of_some ((name_pruned e).symm ▸ hshape), readGeometry_pruned]

/-! ## Documents -/

theorem placemarks_eq (root : Element) :
    placemarks root = (preorder root).filter fun e => e.name == "Placemark" := by
  rw [placemarks, namedWithin_eq, preorderOfAll, preorderOfAll, List.append_nil]

theorem mem_placemarks {e root : Element} :
    e ∈ placemarks root ↔ Within e root ∧ e.name = "Placemark" := by
  rw [placemarks_eq, List.mem_filter, mem_preorder_iff, beq_iff_eq]

/-- **Features of a document.** A tree can be read just if the first geometry of every placemark
anywhere in it can. Then there is one feature for each placemark in document order, with the first
geometry among the children of the placemark. It is also the first one of the placemark without
the placemarks in it. The order is that in which a text with this tree opens its elements. -/
theorem features_of_placemarks (root : Element) :
    ((∃ features, readPlacemarks (placemarks root) = .ok features) ↔
        ∀ e, Within e root → e.name = "Placemark" → ∃ g, FirstGeometry e.children g) ∧
      (∀ features, readPlacemarks (placemarks root) = .ok features →
        List.Forall₂ (fun e f => FirstGeometry e.children f.geometry ∧
            FirstGeometry (pruned e).children f.geometry)
          ((preorder root).filter fun e => e.name == "Placemark") features) ∧
      ∀ text, Element.read text = .ok root →
        decode text = readPlacemarks (placemarks root) ∧
          (events text).filterMap Event.tag? = (preorder root).map Element.tag := by
  refine ⟨?_, ?_, ?_⟩
  · rw [exists_readEach_iff readPlacemark readPlacemarks rfl fun _ _ => rfl]
    constructor
    · intro hall e hwithin hname
      obtain ⟨f, hf⟩ := hall e (mem_placemarks.mpr ⟨hwithin, hname⟩)
      exact ⟨f.geometry, (readPlacemark_eq_ok_iff.mp hf).1⟩
    · intro hall e he
      obtain ⟨hwithin, hname⟩ := mem_placemarks.mp he
      obtain ⟨g, hg⟩ := hall e hwithin hname
      exact ⟨⟨g, _⟩, readPlacemark_eq_ok_iff.mpr ⟨hg, rfl⟩⟩
  · intro features h
    rw [← placemarks_eq]
    have heach := (readEach_eq_ok_iff readPlacemark readPlacemarks rfl fun _ _ => rfl).mp h
    refine heach.imp fun e f hf => ?_
    obtain ⟨hgeometry, -⟩ := readPlacemark_eq_ok_iff.mp hf
    refine ⟨hgeometry, ?_⟩
    rw [← firstGeometry?_eq_ok_iff, pruned_eq, firstGeometry?_pruned]
    exact firstGeometry?_eq_ok_iff.mpr hgeometry
  · intro text h
    exact ⟨by rw [decode, h]; rfl, tags_of_read h⟩

/-- A root that is a placemark, with a point in a placemark below it only. -/
theorem features_of_placemarks_nested :
    let text := "<Placemark><Folder><Placemark><Point><coordinates>1,2</coordinates></Point>" ++
      "</Placemark></Folder></Placemark>"
    ∃ root features, Element.read text = .ok root ∧ decode text = .ok features ∧
      features.map (fun f => f.geometry.isSome) = [false, true] ∧
      List.Forall₂ (fun e f => FirstGeometry e.children f.geometry ∧
          FirstGeometry (pruned e).children f.geometry)
        ((preorder root).filter fun e => e.name == "Placemark") features := by
  intro text
  have hread : ((Element.read text).bind fun root => (readPlacemarks (placemarks root)).map
      fun features => features.map fun f => f.geometry.isSome) = .ok [false, true] := by
    decide +kernel
  obtain ⟨root, h, hread⟩ := exists_of_bind hread
  obtain ⟨features, hfeatures, hgeometries⟩ := exists_of_map hread
  obtain ⟨-, heach, hdecode⟩ := features_of_placemarks root
  exact ⟨root, features, h, (hdecode text h).1.trans hfeatures, hgeometries,
    heach features hfeatures⟩

end GeoDrafts.Kml
