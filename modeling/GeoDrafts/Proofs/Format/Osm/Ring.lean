import GeoDrafts.Proofs.Decimal.NotNan
import GeoDrafts.Proofs.Format.Coords
import Mathlib

/-!
The rings of OSM ways. Whether a way is an area is decided by its references, but its ring has the
places of those references only that the document resolves. A ring ends where it starts if the
reference that closes it is resolved. Otherwise the first and the last place that are left may
differ.
-/

namespace GeoDrafts

/-- The first and the last coordinate are there and have the same numbers. -/
def Ring.EndsMeet (ring : Ring) : Prop :=
  ∃ first ∈ ring.head?, ∃ last ∈ ring.getLast?, first.meets last = true

instance (ring : Ring) : Decidable ring.EndsMeet :=
  inferInstanceAs (Decidable (∃ first ∈ ring.head?, ∃ last ∈ ring.getLast?, _))

/-- A coordinate without NaN meets itself. -/
theorem Coord.IsFinite.meets_self {c : Coord} (h : c.IsFinite) : c.meets c = true := by
  have hself : ∀ x : Float, x.isFinite = true → (x == x) = true := by
    intro x hx
    rw [Float.beq_self_iff]
    rintro rfl
    exact absurd hx (by decide +kernel)
  rw [meets, hself c.x h.1, hself c.y h.2, Bool.and_self]

namespace Osm

open Markup

def references (way : Element) : List String :=
  (way.childrenNamed "nd").filterMap (·.attribute? "ref")

/-- A way that comes back to the node where it starts, by way of another one. -/
def IsArea (way : Element) : Prop :=
  2 < (references way).length ∧ (references way).head? = (references way).getLast?

instance (way : Element) : Decidable (IsArea way) := inferInstanceAs (Decidable (_ ∧ _))

/-- The places of the references that are resolved. -/
def ringOf (places : Places) (way : Element) : Ring := (references way).filterMap places.find?

section
variable {places : Places} {way : Element}

theorem wayFeature?_eq : wayFeature? places way =
    if (ringOf places way).length < 2 then none
    else
      some ⟨some (if IsArea way then .polygon [ringOf places way]
        else .lineString (ringOf places way)), withId way (tags way)⟩ :=
  rfl

theorem wayFeature?_of_polygon {f : Feature} {rings : List Ring}
    (h : wayFeature? places way = some f) (hgeometry : f.geometry = some (.polygon rings)) :
    IsArea way ∧ 2 ≤ (ringOf places way).length ∧ rings = [ringOf places way] := by
  rw [wayFeature?_eq] at h
  split at h
  · cases h
  · rename_i hlength
    cases h
    split at hgeometry
    · rename_i harea
      cases hgeometry
      exact ⟨harea, Nat.not_lt.mp hlength, rfl⟩
    · cases hgeometry

theorem wayFeature?_of_isArea (harea : IsArea way) (hlength : 2 ≤ (ringOf places way).length) :
    ∃ f, wayFeature? places way = some f ∧
      f.geometry = some (.polygon [ringOf places way]) := by
  refine ⟨⟨some (.polygon [ringOf places way]), withId way (tags way)⟩, ?_, rfl⟩
  rw [wayFeature?_eq, if_neg (Nat.not_lt.mpr hlength), if_pos harea]

/-- Polygons are made of ways only. -/
theorem elementFeature?_of_polygon {e : Element} {f : Feature} {rings : List Ring}
    (h : elementFeature? places e = some f) (hgeometry : f.geometry = some (.polygon rings)) :
    e.name = "way" ∧ IsArea e ∧ 2 ≤ (ringOf places e).length ∧ rings = [ringOf places e] := by
  unfold elementFeature? at h
  split at h
  · unfold nodeFeature? at h
    split at h
    · cases h
    · obtain ⟨id, -, h⟩ := Option.bind_eq_some_iff.mp h
      obtain ⟨place, -, h⟩ := Option.bind_eq_some_iff.mp h
      cases h
      cases hgeometry
  · split at h
    · rename_i hway
      exact ⟨hway, wayFeature?_of_polygon h hgeometry⟩
    · cases h

/-- The place where a way is closed is the first and the last of its ring. -/
theorem endsMeet_of_closing (hplaces : ∀ p ∈ places, p.2.IsFinite) (harea : IsArea way)
    {id : String} (hfirst : (references way).head? = some id) {c : Coord}
    (hplace : places.find? id = some c) : (ringOf places way).EndsMeet := by
  have hlast : (references way).reverse.head? = some id := by
    rw [List.head?_reverse, ← harea.2, hfirst]
  have hfound : ∀ ids : List String, ids.head? = some id →
      ids.findSome? places.find? = some c := by
    intro ids hids
    obtain ⟨rest, rfl⟩ := List.head?_eq_some_iff.mp hids
    rw [List.findSome?_cons, hplace]
  refine ⟨c, ?_, c, ?_, (Places.isFinite_of_find? hplaces hplace).meets_self⟩
  · rw [ringOf, List.head?_filterMap]
    exact hfound _ hfirst
  · rw [ringOf, List.getLast?_filterMap]
    exact hfound _ hlast

end

/-- **Rings of areas.** Every polygon of a document has one ring of at least two places. All rings
end where they start just if this holds of those areas whose closing node has no place in the
document: the others are always closed. -/
theorem polygon_rings_closed_iff {text : String} {features : List Feature}
    (h : decode text = .ok features) :
    ∃ root nodes, Element.readNamed "osm" text = .ok root ∧
      readNodes (root.childrenNamed "node") = .ok nodes ∧
      (∀ f ∈ features, ∀ rings, f.geometry = some (.polygon rings) →
        ∃ ring : Ring, rings = [ring] ∧ 2 ≤ ring.length) ∧
      ((∀ f ∈ features, ∀ rings, f.geometry = some (.polygon rings) →
          ∀ ring ∈ rings, Ring.EndsMeet ring) ↔
        ∀ way ∈ root.childrenNamed "way", IsArea way → 2 ≤ (ringOf nodes.reverse way).length →
          (∀ id ∈ (references way).head?, Places.find? nodes.reverse id = none) →
          (ringOf nodes.reverse way).EndsMeet) := by
  obtain ⟨root, hroot, h⟩ := exists_of_bind h
  obtain ⟨nodes, hnodes, h⟩ := exists_of_bind h
  cases h
  have hplaces : ∀ p ∈ nodes.reverse, p.2.IsFinite :=
    fun p hp => isFinite_of_readNodes hnodes p (List.mem_reverse.mp hp)
  refine ⟨root, nodes, hroot, hnodes, ?_, ?_, ?_⟩
  · intro f hf rings hgeometry
    obtain ⟨e, -, he⟩ := List.mem_filterMap.mp hf
    obtain ⟨-, -, hlength, rfl⟩ := elementFeature?_of_polygon he hgeometry
    exact ⟨_, rfl, hlength⟩
  · intro hclosed way hway harea hlength _
    obtain ⟨hchild, hname⟩ := List.mem_filter.mp hway
    obtain ⟨f, hf, hgeometry⟩ := wayFeature?_of_isArea harea hlength
    refine hclosed f (List.mem_filterMap.mpr ⟨way, hchild, ?_⟩) _ hgeometry _
      (List.mem_singleton_self _)
    rw [elementFeature?, beq_iff_eq.mp hname, if_neg (by decide), if_pos rfl]
    exact hf
  · intro hunresolved f hf rings hgeometry ring hring
    obtain ⟨e, hchild, he⟩ := List.mem_filterMap.mp hf
    obtain ⟨hname, harea, hlength, rfl⟩ := elementFeature?_of_polygon he hgeometry
    obtain rfl := List.mem_singleton.mp hring
    cases hfirst : (references e).head? with
    | none =>
      rw [List.head?_eq_none_iff] at hfirst
      exact absurd harea.1 (by simp [hfirst])
    | some id =>
      cases hplace : Places.find? nodes.reverse id with
      | some c => exact endsMeet_of_closing hplaces harea hfirst hplace
      | none =>
        refine hunresolved e (List.mem_filter.mpr ⟨hchild, beq_iff_eq.mpr hname⟩) harea hlength ?_
        intro first hsome
        rw [hfirst, Option.mem_some_iff] at hsome
        exact hsome ▸ hplace

/-- A way that was cut off at the node where it is closed, and whose other nodes come back to where
they start. -/
theorem polygon_rings_closed_of_cut_way :
    let text := "<osm><node id='1' lat='0' lon='0'/><node id='2' lat='0' lon='1'/>" ++
      "<way><nd ref='9'/><nd ref='1'/><nd ref='2'/><nd ref='1'/><nd ref='9'/></way></osm>"
    ∃ features, decode text = .ok features ∧ features.length = 1 ∧
      ∀ f ∈ features, ∀ rings, f.geometry = some (.polygon rings) →
        ∀ ring ∈ rings, Ring.EndsMeet ring := by
  intro text
  have hread : (decode text).map (·.length) = .ok 1 := by decide +kernel
  obtain ⟨features, h, hlength⟩ := exists_of_map hread
  refine ⟨features, h, hlength, ?_⟩
  obtain ⟨root, nodes, hroot, hnodes, -, hiff⟩ := polygon_rings_closed_iff h
  have hways : (Element.readNamed "osm" text >>= fun root =>
      (readNodes (root.childrenNamed "node")).map fun nodes =>
        (root.childrenNamed "way").all fun way =>
          decide ((ringOf nodes.reverse way).EndsMeet)) = .ok true := by
    decide +kernel
  rw [hroot] at hways
  obtain ⟨nodes', hnodes', hall⟩ := exists_of_map hways
  obtain rfl : nodes = nodes' := Except.ok.inj (hnodes.symm.trans hnodes')
  exact hiff.mpr fun way hway _ _ _ => of_decide_eq_true (List.all_eq_true.mp hall way hway)

/-- The rings of a polygon; other features have none. -/
def polygonRings (f : Feature) : List Ring :=
  match f.geometry with
  | some (.polygon rings) => rings
  | _ => []

theorem exists_of_mem_polygonRings {f : Feature} {ring : Ring} (h : ring ∈ polygonRings f) :
    ∃ rings, f.geometry = some (.polygon rings) ∧ ring ∈ rings := by
  unfold polygonRings at h
  split at h
  · rename_i rings hgeometry
    exact ⟨rings, hgeometry, h⟩
  · cases h

/-- A triangle whose closing node is missing is read as a polygon between two other places. -/
theorem open_ring_of_missing_node :
    let text := "<osm><node id='2' lat='0' lon='1'/><node id='3' lat='1' lon='1'/>" ++
      "<way><nd ref='1'/><nd ref='2'/><nd ref='3'/><nd ref='1'/></way></osm>"
    ∃ features, decode text = .ok features ∧
      ¬ ∀ f ∈ features, ∀ rings, f.geometry = some (.polygon rings) →
        ∀ ring ∈ rings, Ring.EndsMeet ring := by
  intro text
  have hopen : (decode text).map (·.any fun f =>
      (polygonRings f).any fun ring => !decide ring.EndsMeet) = .ok true := by
    decide +kernel
  obtain ⟨features, h, hopen⟩ := exists_of_map hopen
  refine ⟨features, h, fun hall => ?_⟩
  obtain ⟨f, hf, hopen⟩ := List.any_eq_true.mp hopen
  obtain ⟨ring, hmem, hopen⟩ := List.any_eq_true.mp hopen
  obtain ⟨rings, hgeometry, hring⟩ := exists_of_mem_polygonRings hmem
  rw [decide_eq_true (hall f hf rings hgeometry ring hring)] at hopen
  cases hopen

end Osm

end GeoDrafts
