import GeoDrafts.Format.GeoJson
import GeoDrafts.Proofs.Json.Members

/-!
Reading a GeoJSON feature and its geometry. The properties are those of its own, with the
identifier beside them unless they have one.
-/

namespace GeoDrafts.GeoJson

variable {v : Json}

theorem typeOf_of_member? {kind : String} (h : v.member? "type" = some (.text kind)) :
    typeOf v = .ok kind := by
  cases v with
  | object members =>
    change Json.Members.find? "type" members = _ at h
    rw [typeOf, h]
  | _ => cases h

theorem readGeometry_of_readSimple {kind : String} {w : Json} {g : Geometry}
    (hkind : kind ≠ "GeometryCollection")
    (htype : v.member? "type" = some (.text kind)) (hw : v.member? "coordinates" = some w)
    (hg : readSimple kind w = .ok g) : readGeometry v = .ok g := by
  rw [readGeometry, typeOf_of_member? htype]
  dsimp only
  rw [if_neg hkind, hw]
  exact hg

def ownProperties (v : Json) : Json.Members :=
  match v.member? "properties" with
  | some (.object members) => members
  | _ => []

theorem find?_ownProperties (key : String) :
    (ownProperties v).find? key = (v.member? "properties").bind (Json.member? key) := by
  unfold ownProperties
  cases hproperties : v.member? "properties" with
  | none => rfl
  | some w => cases w <;> rfl

/-- The properties with the identifier beside them. -/
def allProperties (v : Json) : Json.Members :=
  match v.member? "id" with
  | none => ownProperties v
  | some id => Json.Members.insertNew "id" id (ownProperties v)

theorem find?_allProperties : (allProperties v).find? "id" =
    ((v.member? "properties").bind (Json.member? "id")).or (v.member? "id") := by
  rw [← find?_ownProperties, allProperties]
  cases v.member? "id" with
  | none => rw [Option.or_none]
  | some id =>
    dsimp only
    rw [Json.Members.find?_insertNew_self]
    cases (ownProperties v).find? "id" <;> rfl

theorem readFeature_of_geometry {w : Json} {g : Geometry}
    (htype : v.member? "type" = some (.text "Feature")) (hw : v.member? "geometry" = some w)
    (hg : readGeometry w = .ok g) : readFeature v = .ok ⟨some g, allProperties v⟩ := by
  cases w with
  | object members =>
    simp only [readFeature, typeOf_of_member? htype, hw, hg, bind, Except.bind, Except.map, ne_eq,
      not_true_eq_false, if_false]
    rfl
  | _ =>
    unfold readGeometry at hg
    cases hg

theorem readFeature_of_no_geometry (htype : v.member? "type" = some (.text "Feature"))
    (hnone : v.member? "geometry" = none ∨ v.member? "geometry" = some .null) :
    readFeature v = .ok ⟨none, allProperties v⟩ := by
  rcases hnone with hnone | hnone <;>
  · simp only [readFeature, typeOf_of_member? htype, hnone, bind, Except.bind, ne_eq,
      not_true_eq_false, if_false]
    rfl

end GeoDrafts.GeoJson
