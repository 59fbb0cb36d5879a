import GeoDrafts.Format.Esri
import Mathlib.Data.List.SplitBy

/-!
The polygons of Esri areas. The rings of an area are one list; going through it, each ring that is
not empty starts a polygon or becomes a hole of the last one. So the polygons, put behind one
another, are these rings again, cut in front of every clockwise one.
-/

namespace GeoDrafts

namespace Esri

/-- Rings cut into polygons. The holes of a polygon are not clockwise, and its first ring is, unless
it is the first ring of all. -/
structure Groups (rings : List Ring) (polygons : List (List Ring)) : Prop where
  flatten : polygons.flatten = rings
  ne_nil : ∀ polygon ∈ polygons, polygon ≠ []
  holes : ∀ polygon ∈ polygons, ∀ ring ∈ polygon.tail, isClockwise ring = false
  outer : ∀ polygon ∈ polygons.tail, ∃ ring, polygon.head? = some ring ∧ isClockwise ring = true

theorem isChain_of_tail {α : Type} {r : α → α → Prop} {l : List α}
    (h : ∀ a ∈ l, ∀ b ∈ l.tail, r a b) : l.IsChain r := by
  induction l with
  | nil => exact .nil
  | cons a l ih =>
    refine List.isChain_cons.mpr ⟨fun b hb => ?_, ih fun b hb c hc => ?_⟩
    · exact h a List.mem_cons_self b (List.mem_of_mem_head? hb)
    · exact h b (List.mem_cons_of_mem a hb) c (List.mem_of_mem_tail hc)

namespace Groups

variable {rings : List Ring} {polygons : List (List Ring)} {polygon : List Ring} {ring : Ring}

theorem nil : Groups [] [] where
  flatten := rfl
  ne_nil := by simp
  holes := by simp
  outer := by simp

/-- The first ring starts a polygon, whichever way it runs. -/
theorem singleton (ring : Ring) : Groups [ring] [[ring]] where
  flatten := rfl
  ne_nil := by simp
  holes := by simp
  outer := by simp

theorem start (h : Groups rings polygons) (hring : isClockwise ring = true) :
    Groups (rings ++ [ring]) (polygons ++ [[ring]]) where
  flatten := by rw [List.flatten_append, h.flatten, List.flatten_singleton]
  ne_nil := by
    simp only [List.forall_mem_append, List.forall_mem_singleton]
    exact ⟨h.ne_nil, List.cons_ne_nil _ _⟩
  holes := by
    simp only [List.forall_mem_append, List.forall_mem_singleton]
    exact ⟨h.holes, by simp⟩
  outer := by
    cases polygons with
    | nil => simp
    | cons first others =>
      simp only [List.cons_append, List.tail_cons, List.forall_mem_append,
        List.forall_mem_singleton]
      exact ⟨h.outer, ring, rfl, hring⟩

theorem join (h : Groups rings (polygons ++ [polygon])) (hring : isClockwise ring = false) :
    Groups (rings ++ [ring]) (polygons ++ [polygon ++ [ring]]) where
  flatten := by
    rw [← h.flatten]
    simp
  ne_nil := by
    have hne := h.ne_nil
    simp only [List.forall_mem_append, List.forall_mem_singleton] at hne ⊢
    exact ⟨hne.1, by simp⟩
  holes := by
    have hne := h.ne_nil
    have hholes := h.holes
    simp only [List.forall_mem_append, List.forall_mem_singleton] at hne hholes ⊢
    refine ⟨hholes.1, ?_⟩
    rw [List.tail_append_of_ne_nil hne.2, List.forall_mem_append]
    exact ⟨hholes.2, List.forall_mem_singleton.mpr hring⟩
  outer := by
    cases polygons with
    | nil => simp
    | cons first others =>
      have houter := h.outer
      simp only [List.cons_append, List.tail_cons, List.forall_mem_append,
        List.forall_mem_singleton] at houter ⊢
      obtain ⟨hothers, r, hhead, hr⟩ := houter
      exact ⟨hothers, r, by rw [List.head?_append, hhead, Option.some_or], hr⟩

theorem countP_flatten {polygons : List (List Ring)}
    (houter : ∀ polygon ∈ polygons, ∃ ring, polygon.head? = some ring ∧ isClockwise ring = true)
    (hholes : ∀ polygon ∈ polygons, ∀ ring ∈ polygon.tail, isClockwise ring = false) :
    polygons.flatten.countP isClockwise = polygons.length := by
  induction polygons with
  | nil => rfl
  | cons polygon polygons ih =>
    rw [List.forall_mem_cons] at houter hholes
    obtain ⟨⟨ring, hhead, hring⟩, houter⟩ := houter
    obtain ⟨rest, rfl⟩ := List.head?_eq_some_iff.mp hhead
    have hrest : rest.countP isClockwise = 0 := by
      simpa [List.countP_eq_zero] using hholes.1
    rw [List.flatten_cons, List.countP_append, ih houter hholes.2, List.countP_cons, hrest,
      if_pos hring, List.length_cons, Nat.add_comm]

/-- The holes do not count, and every polygon but the first has one clockwise ring. -/
theorem length (h : Groups rings polygons) :
    polygons.length = rings.countP isClockwise +
      if rings.head?.any (fun ring => !isClockwise ring) then 1 else 0 := by
  cases polygons with
  | nil => simp [← h.flatten]
  | cons first others =>
    obtain ⟨ring, holes, rfl⟩ := List.exists_cons_of_ne_nil (h.ne_nil first List.mem_cons_self)
    have hfirst : holes.countP isClockwise = 0 := by
      simpa [List.countP_eq_zero] using h.holes _ List.mem_cons_self
    have hothers : others.flatten.countP isClockwise = others.length :=
      countP_flatten h.outer fun p hp => h.holes p (List.mem_cons_of_mem _ hp)
    have hcount : rings.countP isClockwise =
        others.length + if isClockwise ring then 1 else 0 := by
      rw [← h.flatten, List.flatten_cons, List.cons_append, List.countP_cons, List.countP_append,
        hfirst, hothers, Nat.zero_add]
    have hhead : rings.head? = some ring := by
      rw [← h.flatten]
      rfl
    rw [hcount, hhead, List.length_cons]
    cases hclockwise : isClockwise ring <;> simp [hclockwise]

/-- There is one such cut of the rings, the one in front of every clockwise ring. -/
theorem eq_splitBy (h : Groups rings polygons) :
    polygons = rings.splitBy fun _ ring => !isClockwise ring := by
  refine (List.splitBy_eq_iff.mpr ⟨h.flatten.symm, fun hnil => h.ne_nil [] hnil rfl, ?_, ?_⟩).symm
  · intro polygon hpolygon
    refine isChain_of_tail fun _ _ ring hring => ?_
    rw [h.holes polygon hpolygon ring hring, Bool.not_false]
  · refine isChain_of_tail fun p hp q hq =>
      ⟨h.ne_nil p hp, h.ne_nil q (List.mem_of_mem_tail hq), ?_⟩
    obtain ⟨ring, hhead, hring⟩ := h.outer q hq
    obtain ⟨holes, rfl⟩ := List.head?_eq_some_iff.mp hhead
    rw [List.head_cons, hring, Bool.not_true]

end Groups

/-! ## The loop -/

def inOrder (polygons : List (List Ring)) : List (List Ring) := polygons.reverse.map List.reverse

theorem inOrder_cons (polygon : List Ring) (polygons : List (List Ring)) :
    inOrder (polygon :: polygons) = inOrder polygons ++ [polygon.reverse] := by
  simp [inOrder]

theorem groups_addRing {rings : List Ring} {polygons : List (List Ring)}
    (h : Groups rings (inOrder polygons)) (ring : Ring) :
    Groups (rings ++ [ring]) (inOrder (addRing polygons ring)) := by
  -- The loop keeps both lists in reverse: the polygon that it is at comes first.
  cases polygons with
  | nil =>
    have hrings : rings = [] := h.flatten.symm
    rw [hrings]
    exact .singleton ring
  | cons polygon polygons =>
    rw [addRing]
    cases hring : isClockwise ring with
    | true =>
      rw [if_pos rfl, inOrder_cons, List.reverse_singleton]
      exact h.start hring
    | false =>
      rw [if_neg Bool.false_ne_true, inOrder_cons, List.reverse_cons]
      rw [inOrder_cons] at h
      exact h.join hring

theorem groups_foldl {rings : List Ring} {polygons : List (List Ring)}
    (h : Groups rings (inOrder polygons)) (more : List Ring) :
    Groups (rings ++ more) (inOrder (more.foldl addRing polygons)) := by
  induction more generalizing rings polygons with
  | nil => rwa [List.append_nil]
  | cons ring more ih =>
    rw [List.foldl_cons, List.append_cons]
    exact ih (groups_addRing h ring)

theorem groups_polygonsOfRings (rings : List Ring) :
    Groups (rings.filter fun ring => !ring.isEmpty) (polygonsOfRings rings) := by
  have hstart : Groups [] (inOrder []) := .nil
  exact groups_foldl hstart _

/-- There is no polygon just if there is no ring to start one. -/
theorem polygonsOfRings_eq_nil_iff {rings : List Ring} :
    polygonsOfRings rings = [] ↔ ∀ ring ∈ rings, ring = [] := by
  have hgroups := groups_polygonsOfRings rings
  have hkept : (rings.filter fun ring => !ring.isEmpty) = [] ↔ ∀ ring ∈ rings, ring = [] := by
    simp [List.filter_eq_nil_iff]
  rw [← hkept]
  constructor
  · intro hnil
    rw [← hgroups.flatten, hnil, List.flatten_nil]
  · intro hnil
    cases hpolygons : polygonsOfRings rings with
    | nil => rfl
    | cons polygon polygons =>
      rw [hpolygons] at hgroups
      have hflatten := hgroups.flatten.trans hnil
      have hpolygon := hgroups.ne_nil polygon List.mem_cons_self
      exact absurd (List.append_eq_nil_iff.mp hflatten).1 hpolygon

/-- What is read of rings, one polygon or several. -/
theorem exists_of_polygonsOfRings {rings : List Ring} (h : polygonsOfRings rings ≠ []) :
    ∃ area : PolygonGeometry, geometryOfRings rings = .ok area.toGeometry ∧
      (area.kind = .multiPolygon ↔ 2 ≤ area.polygons.length) ∧
      area.polygons = polygonsOfRings rings := by
  rcases hpolygons : polygonsOfRings rings with _ | ⟨first, _ | ⟨second, others⟩⟩
  · exact absurd hpolygons h
  · refine ⟨.polygon first, by rw [geometryOfRings, hpolygons]; rfl, ?_, rfl⟩
    simp [PolygonGeometry.kind, PolygonGeometry.toGeometry, Geometry.kind,
      PolygonGeometry.polygons]
  · refine ⟨.multiPolygon (first :: second :: others), by rw [geometryOfRings, hpolygons]; rfl,
      iff_of_true rfl ?_, rfl⟩
    simp [PolygonGeometry.polygons]

/-- **The polygons of Esri areas.** Rings form no area just if they are all empty. Else the polygons
of the area, of which a multipolygon has several, hold the rings that are not empty in their order:
the holes of a polygon are not clockwise, and its first ring is, unless it is the first ring of all.
They are the only such polygons. There is one for each clockwise ring, and one more if the first
ring is not clockwise. -/
theorem geometryOfRings_groups (rings : List Ring) :
    let kept := rings.filter fun ring => !ring.isEmpty
    (geometryOfRings rings = .error (.geometry .noRings) ↔ ∀ ring ∈ rings, ring = []) ∧
    ((∃ ring ∈ rings, ring ≠ []) → ∃ area : PolygonGeometry,
      geometryOfRings rings = .ok area.toGeometry ∧
      (area.kind = .multiPolygon ↔ 2 ≤ area.polygons.length) ∧
      Groups kept area.polygons ∧ (∀ polygons, Groups kept polygons → polygons = area.polygons) ∧
      area.polygons.length = kept.countP isClockwise +
        if kept.head?.any (fun ring => !isClockwise ring) then 1 else 0) := by
  intro kept
  have hgroups : Groups kept (polygonsOfRings rings) := groups_polygonsOfRings rings
  constructor
  · rw [← polygonsOfRings_eq_nil_iff]
    constructor
    · intro herror
      by_contra hne
      obtain ⟨area, hok, -⟩ := exists_of_polygonsOfRings hne
      rw [hok] at herror
      cases herror
    · intro hnil
      rw [geometryOfRings, hnil]
  · rintro ⟨ring, hring, hne⟩
    have hpolygons : polygonsOfRings rings ≠ [] :=
      fun hnil => hne (polygonsOfRings_eq_nil_iff.mp hnil ring hring)
    obtain ⟨area, hok, hkind, harea⟩ := exists_of_polygonsOfRings hpolygons
    rw [← harea] at hgroups
    exact ⟨area, hok, hkind, hgroups, fun _ h => h.eq_splitBy.trans hgroups.eq_splitBy.symm,
      hgroups.length⟩

/-- A triangle against the clock comes first and an empty ring behind it. Each of the two triangles
with the clock starts another polygon, and the last ring is a hole. -/
theorem geometryOfRings_groups_leading_hole :
    let hole : Ring := [⟨0, 0⟩, ⟨1, 0⟩, ⟨1, 1⟩, ⟨0, 0⟩]
    let outer (x : Float) : Ring := [⟨x, 0⟩, ⟨x, 5⟩, ⟨x + 5, 0⟩, ⟨x, 0⟩]
    ∃ area : PolygonGeometry,
      geometryOfRings [hole, [], outer 0, outer 9, hole] = .ok area.toGeometry ∧
      area.kind = .multiPolygon ∧ area.polygons.length = 3 ∧
      area.polygons.flatten = [hole, outer 0, outer 9, hole] := by
  intro hole outer
  obtain ⟨area, hok, hkind, hgroups, -, hlength⟩ :=
    (geometryOfRings_groups [hole, [], outer 0, outer 9, hole]).2
      ⟨hole, List.mem_cons_self, List.cons_ne_nil _ _⟩
  have hthree : area.polygons.length = 3 := by
    rw [hlength]
    decide +kernel
  exact ⟨area, hok, hkind.mpr (by omega), hthree, hgroups.flatten⟩

end Esri

end GeoDrafts
