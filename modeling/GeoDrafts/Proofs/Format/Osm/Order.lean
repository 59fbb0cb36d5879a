import GeoDrafts.Format.Osm
import GeoDrafts.Proofs.Markup.Building
import Mathlib

/-!
The order of the elements of an OSM document. All nodes are read before the first feature is made,
and a feature is made of one element and the places of the nodes. If no two nodes with a place
share their identifier, these places do not depend on the order of the elements, so each element
gives the feature that it gives in any other order. Ways may come before their nodes.
-/

namespace GeoDrafts.Osm

open Markup

/-! ## Nodes with a place -/

/-- The identifier of an element that has a place as well. -/
def placedId? (e : Element) : Option String := do
  let id ← e.attribute? "id"
  let _ ← e.attribute? "lat"
  let _ ← e.attribute? "lon"
  some id

/-- The identifiers of the nodes with a place, in the order of the document. -/
def placedIds (root : Element) : List String := (root.childrenNamed "node").filterMap placedId?

theorem id_of_readNode? {e : Element} {place : Option (String × Coord)}
    (h : readNode? e = .ok place) : place.map Prod.fst = placedId? e := by
  unfold readNode? at h
  split at h
  · rename_i id lat lon hid hlat hlon
    obtain ⟨x, -, h⟩ := exists_of_bind h
    obtain ⟨y, -, h⟩ := exists_of_bind h
    cases h
    rw [placedId?, hid, hlat, hlon]
    rfl
  · rename_i hnone
    cases h
    cases hid : e.attribute? "id" with
    | none => rw [placedId?, hid]; rfl
    | some id =>
      cases hlat : e.attribute? "lat" with
      | none => rw [placedId?, hid, hlat]; rfl
      | some lat =>
        cases hlon : e.attribute? "lon" with
        | none => rw [placedId?, hid, hlat, hlon]; rfl
        | some lon => exact absurd hlon (hnone id lat lon hid hlat)

theorem ids_of_readNodes {es : List Element} {places : Places} (h : readNodes es = .ok places) :
    places.map Prod.fst = es.filterMap placedId? := by
  induction es generalizing places with
  | nil =>
    cases h
    rfl
  | cons e es ih =>
    obtain ⟨place, hplace, h⟩ := exists_of_bind h
    obtain ⟨more, hmore, h⟩ := exists_of_bind h
    cases h
    rw [List.map_append, ih hmore, List.filterMap_cons, ← id_of_readNode? hplace]
    cases place <;> rfl

/-! ## Places -/

section
variable {places places' : Places}

/-- Where identifiers are given one place each, that place is found. -/
theorem find?_eq_some_iff (hids : (places.map Prod.fst).Nodup) {id : String} {c : Coord} :
    places.find? id = some c ↔ (id, c) ∈ places := by
  constructor
  · intro h
    obtain ⟨⟨id', c'⟩, hfind, rfl⟩ := Option.map_eq_some_iff.mp h
    have hid : (id' == id) = true :=
      List.find?_some (p := fun place : String × Coord => place.1 == id) hfind
    obtain rfl : id' = id := beq_iff_eq.mp hid
    exact List.mem_of_find?_eq_some hfind
  · intro hmem
    obtain ⟨⟨id', c'⟩, hfind⟩ : ∃ place, List.find? (fun p => p.1 == id) places = some place := by
      rw [← Option.isSome_iff_exists, List.find?_isSome]
      exact ⟨(id, c), hmem, beq_self_eq_true id⟩
    have hid : (id' == id) = true :=
      List.find?_some (p := fun place : String × Coord => place.1 == id) hfind
    have hsame := List.inj_on_of_nodup_map hids (List.mem_of_find?_eq_some hfind) hmem
      (beq_iff_eq.mp hid)
    rw [Places.find?, hfind, hsame]
    rfl

theorem find?_of_perm (hperm : places.Perm places') (hids : (places.map Prod.fst).Nodup) :
    places.find? = places'.find? := by
  funext id
  refine Option.ext fun c => ?_
  rw [find?_eq_some_iff hids, find?_eq_some_iff ((hperm.map _).nodup_iff.mp hids), hperm.mem_iff]

/-- The feature of an element depends on the places that are found only. -/
theorem elementFeature?_congr (h : places.find? = places'.find?) :
    elementFeature? places = elementFeature? places' := by
  funext e
  simp only [elementFeature?, nodeFeature?, wayFeature?, h]

end

/-! ## Documents -/

theorem decode_of_readNamed {text : String} {root : Element}
    (h : Element.readNamed "osm" text = .ok root) : decode text = ofRoot root := by
  rw [decode, h]
  rfl

theorem childrenNamed_perm {root root' : Element} (h : root.children.Perm root'.children)
    (name : String) : (root.childrenNamed name).Perm (root'.childrenNamed name) :=
  h.filter _

/-- Nodes are read in any order, and the same places are found for them. -/
theorem exists_readNodes_of_perm {root root' : Element}
    (hchildren : root.children.Perm root'.children) (hids : (placedIds root).Nodup)
    {nodes : Places} (h : readNodes (root.childrenNamed "node") = .ok nodes) :
    ∃ nodes', readNodes (root'.childrenNamed "node") = .ok nodes' ∧
      elementFeature? nodes'.reverse = elementFeature? nodes.reverse := by
  obtain ⟨nodes', h', hperm⟩ :=
    exists_readAll_of_perm readNode? Option.toList readNodes (fun _ _ => rfl)
      (childrenNamed_perm hchildren "node") h
  have hreverse : nodes.reverse.Perm nodes'.reverse :=
    (nodes.reverse_perm.trans hperm).trans nodes'.reverse_perm.symm
  have hplaces : (nodes.reverse.map Prod.fst).Nodup := by
    rw [List.map_reverse, List.nodup_reverse, ids_of_readNodes h]
    exact hids
  exact ⟨nodes', h', (elementFeature?_congr (find?_of_perm hreverse hplaces)).symm⟩

/-- **Order of a document.** Two documents with the same elements in different orders, in which no
two nodes with a place share an identifier, are both accepted or both refused. If they are
accepted, each element gives the same feature in both of them, so the features of the one are
those of the other in the order of their elements. -/
theorem features_of_reordered {text text' : String} {root root' : Element}
    (hroot : Element.readNamed "osm" text = .ok root)
    (hroot' : Element.readNamed "osm" text' = .ok root')
    (hchildren : root.children.Perm root'.children) (hids : (placedIds root).Nodup) :
    ((∃ features, decode text = .ok features) ↔ ∃ features, decode text' = .ok features) ∧
      ∀ features features', decode text = .ok features → decode text' = .ok features' →
        features.Perm features' ∧
        ∃ nodes, readNodes (root.childrenNamed "node") = .ok nodes ∧
          features = root.children.filterMap (elementFeature? nodes.reverse) ∧
          features' = root'.children.filterMap (elementFeature? nodes.reverse) := by
  rw [decode_of_readNamed hroot, decode_of_readNamed hroot']
  refine ⟨⟨?_, ?_⟩, ?_⟩
  · rintro ⟨features, h⟩
    obtain ⟨nodes, hnodes, -⟩ := exists_of_bind h
    obtain ⟨nodes', hnodes', -⟩ := exists_readNodes_of_perm hchildren hids hnodes
    exact ⟨_, by rw [ofRoot, hnodes']; rfl⟩
  · rintro ⟨features', h'⟩
    obtain ⟨nodes', hnodes', -⟩ := exists_of_bind h'
    obtain ⟨nodes, hnodes, -⟩ := exists_readNodes_of_perm hchildren.symm
      (((childrenNamed_perm hchildren "node").filterMap placedId?).nodup_iff.mp hids) hnodes'
    exact ⟨_, by rw [ofRoot, hnodes]; rfl⟩
  · intro features features' h h'
    obtain ⟨nodes, hnodes, h⟩ := exists_of_bind h
    obtain ⟨nodes', hnodes', h'⟩ := exists_of_bind h'
    cases h
    cases h'
    obtain ⟨others, hothers, hsame⟩ := exists_readNodes_of_perm hchildren hids hnodes
    obtain rfl : nodes' = others := Except.ok.inj (hnodes'.symm.trans hothers)
    rw [hsame]
    exact ⟨hchildren.filterMap _, nodes, hnodes, rfl, rfl⟩

/-- A line written before its two nodes, and after them. One of the nodes is tagged. -/
theorem features_of_reordered_line :
    let way := "<way id='9'><nd ref='1'/><nd ref='2'/></way>"
    let first := "<node id='1' lat='0' lon='5'/>"
    let second := "<node id='2' lat='1' lon='6'><tag k='a' v='b'/></node>"
    let text := "<osm>" ++ way ++ second ++ first ++ "</osm>"
    let text' := "<osm>" ++ first ++ second ++ way ++ "</osm>"
    ∃ root root', Element.readNamed "osm" text = .ok root ∧
      Element.readNamed "osm" text' = .ok root' ∧ root.children.Perm root'.children ∧
      (placedIds root).Nodup ∧ ∃ features features', decode text = .ok features ∧
        decode text' = .ok features' ∧ features.length = 2 ∧ features.Perm features' := by
  intro way first second text text'
  let wayElement : Element :=
    ⟨"way", [("id", "9")], [⟨"nd", [("ref", "1")], [], ""⟩, ⟨"nd", [("ref", "2")], [], ""⟩], ""⟩
  let firstElement : Element := ⟨"node", [("id", "1"), ("lat", "0"), ("lon", "5")], [], ""⟩
  let secondElement : Element :=
    ⟨"node", [("id", "2"), ("lat", "1"), ("lon", "6")], [⟨"tag", [("k", "a"), ("v", "b")], [], ""⟩],
      ""⟩
  have hroot : Element.readNamed "osm" text =
      .ok ⟨"osm", [], [wayElement, secondElement, firstElement], ""⟩ := by
    decide +kernel
  have hroot' : Element.readNamed "osm" text' =
      .ok ⟨"osm", [], [firstElement, secondElement, wayElement], ""⟩ := by
    decide +kernel
  have hchildren : [wayElement, secondElement, firstElement].Perm
      [firstElement, secondElement, wayElement] :=
    (List.reverse_perm _).symm
  have hids : (placedIds ⟨"osm", [], [wayElement, secondElement, firstElement], ""⟩).Nodup := by
    decide +kernel
  have hlength : (decode text).map (·.length) = .ok 2 := by decide +kernel
  obtain ⟨features, h, hlength⟩ := exists_of_map hlength
  have hboth := features_of_reordered hroot hroot' hchildren hids
  obtain ⟨features', h'⟩ := hboth.1.mp ⟨features, h⟩
  exact ⟨_, _, hroot, hroot', hchildren, hids, features, features', h, h', hlength,
    (hboth.2 features features' h h').1⟩

end GeoDrafts.Osm
