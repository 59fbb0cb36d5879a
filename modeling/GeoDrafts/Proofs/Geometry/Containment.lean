import GeoDrafts.Geometry.Extent
import GeoDrafts.Proofs.Decimal.SignedZero
import Mathlib

/-!
Whether a point lies inside a geometry does not depend on how the geometry is written: on the
order of its polygons and of their rings, on the vertex where a ring starts, and on whether its
first vertex is repeated at the end. The edges of a ring that starts elsewhere are the same edges
in another order, the closing one included. A repeated vertex adds an edge without length, which
no ray crosses. Nothing of this needs numbers that are finite.
-/

namespace GeoDrafts

open Decimal

/-! ## Vertices -/

/-- The same vertex again: the same value, or one that compares as equal and so differs in the
sign of a zero at most. -/
def Coord.Repeats (a b : Coord) : Prop := a = b ∨ a.meets b = true

theorem Coord.Repeats.sameNumber {a b : Coord} (h : a.Repeats b) :
    SameNumber a.x b.x ∧ SameNumber a.y b.y := by
  rcases h with rfl | hmeets
  · exact ⟨.refl _, .refl _⟩
  · obtain ⟨hx, hy⟩ := Bool.and_eq_true_iff.mp hmeets
    exact ⟨sameNumber_of_beq hx, sameNumber_of_beq hy⟩

namespace Ring

/-! ## Edges -/

theorem crosses_eq_false {p a b : Coord} (h : p.y < a.y ↔ p.y < b.y) :
    crosses p (a, b) = false := by
  simp [crosses, h]

/-- The vertex at the end of an edge may be repeated by one with other signs of zero. -/
theorem crosses_congr {p a a' : Coord} (ha : a.Repeats a') (b : Coord) :
    crosses p (a, b) = crosses p (a', b) := by
  obtain ⟨hx, hy⟩ := ha.sameNumber
  have hside := (SameNumber.refl p.y).lt_iff hy
  by_cases hboth : p.y < b.y ↔ p.y < a.y
  · rw [crosses_eq_false hboth.symm, crosses_eq_false (hboth.trans hside).symm]
  · -- The ray tells the ends apart, so the divisor is no zero and has no sign that could change.
    have hheight := (SameNumber.refl b.y).sub_eq hy hboth
    have hplace : SameNumber ((b.x - a.x) * (p.y - a.y) / (b.y - a.y) + a.x)
        ((b.x - a'.x) * (p.y - a'.y) / (b.y - a'.y) + a'.x) := by
      rw [hheight]
      exact ((((SameNumber.refl b.x).sub hx).mul ((SameNumber.refl p.y).sub hy)).div _).add hx
    simp only [crosses, hside, (SameNumber.refl p.x).lt_iff hplace]

/-- The edges of a ring after its first vertex, from one vertex to the next. -/
def path (ring : Ring) : List (Coord × Coord) := ring.tail.zip ring

theorem path_cons_cons (a b : Coord) (ring : Ring) :
    path (a :: b :: ring) = (b, a) :: path (b :: ring) := rfl

theorem path_append_singleton (a : Coord) (ring : Ring) (c : Coord) :
    path (a :: ring ++ [c]) =
      path (a :: ring) ++ [(c, (a :: ring).getLast (List.cons_ne_nil a ring))] := by
  induction ring generalizing a with
  | nil => rfl
  | cons b ring ih =>
    rw [List.cons_append, List.cons_append, path_cons_cons, path_cons_cons, List.cons_append,
      List.getLast_cons (List.cons_ne_nil b ring), ← ih b]
    rfl

theorem edges_cons (a : Coord) (ring : Ring) :
    edges (a :: ring) = (a, (a :: ring).getLast (List.cons_ne_nil a ring)) :: path (a :: ring) := by
  rw [edges, List.getLast?_eq_some_getLast (List.cons_ne_nil a ring)]
  rfl

/-- A ring that starts one vertex later has the same edges; the first edge comes last. -/
theorem edges_rotate_one (ring : Ring) : (edges (ring.rotate 1)).Perm (edges ring) := by
  match ring with
  | [] => exact .refl _
  | [a] => rw [List.rotate_singleton]
  | a :: b :: ring =>
    have hrotate : (a :: b :: ring).rotate 1 = b :: (ring ++ [a]) := rfl
    have hlast : (b :: (ring ++ [a])).getLast (List.cons_ne_nil _ _) = a :=
      List.getLast_append_singleton (b :: ring)
    rw [hrotate, edges_cons, edges_cons, hlast, path_cons_cons, ← List.cons_append,
      path_append_singleton, List.getLast_cons (List.cons_ne_nil b ring), ← List.cons_append]
    exact List.perm_append_singleton _ _

theorem contains_rotate (ring : Ring) (k : ℕ) (p : Coord) :
    contains (ring.rotate k) p = contains ring p := by
  induction k with
  | zero => rw [List.rotate_zero]
  | succ k ih =>
    have hedges := edges_rotate_one (ring.rotate k)
    rw [List.rotate_rotate] at hedges
    rw [← ih, contains, contains, hedges.countP_eq, List.length_rotate, List.length_rotate]

/-- A ring of three vertices or more may repeat its first one at the end. -/
theorem contains_append_singleton {a c : Coord} {ring : Ring} (hlength : 3 ≤ (a :: ring).length)
    (hc : a.Repeats c) (p : Coord) : contains (a :: ring ++ [c]) p = contains (a :: ring) p := by
  have hlonger : 3 ≤ (a :: ring ++ [c]).length := by
    rw [List.length_append]
    exact Nat.le_add_right_of_le hlength
  have hrepeat : crosses p (a, c) = false :=
    crosses_eq_false ((SameNumber.refl p.y).lt_iff hc.sameNumber.2)
  have hlast : (a :: (ring ++ [c])).getLast (List.cons_ne_nil _ _) = c :=
    List.getLast_append_singleton (a :: ring)
  have hcount : (edges (a :: ring ++ [c])).countP (crosses p) =
      (edges (a :: ring)).countP (crosses p) := by
    rw [List.cons_append, edges_cons, hlast, List.countP_cons_of_neg (by simp [hrepeat]),
      ← List.cons_append, path_append_singleton, List.countP_append, List.countP_singleton,
      edges_cons, List.countP_cons, crosses_congr hc]
  rw [contains, contains, hcount, decide_eq_true hlength, decide_eq_true hlonger]

/-! ## Written forms -/

/-- A ring is written as its vertices, or with the first of them repeated at the end. -/
def Writes (ring vertices : Ring) : Prop :=
  ring = vertices ∨ ∃ first c, vertices.head? = some first ∧ first.Repeats c ∧
    ring = vertices ++ [c]

/-- Two rings of the same vertices, three or more, that may start at different ones. -/
def SameOutline (ring ring' : Ring) : Prop :=
  ring = ring' ∨ ∃ (vertices : Ring) (k : ℕ), 3 ≤ vertices.length ∧ ring.Writes vertices ∧
    ring'.Writes (vertices.rotate k)

theorem Writes.contains_eq {ring vertices : Ring} (h : ring.Writes vertices)
    (hlength : 3 ≤ vertices.length) (p : Coord) : ring.contains p = vertices.contains p := by
  rcases h with rfl | ⟨first, c, hfirst, hc, rfl⟩
  · rfl
  · obtain ⟨more, rfl⟩ := List.head?_eq_some_iff.mp hfirst
    exact contains_append_singleton hlength hc p

theorem SameOutline.contains_eq {ring ring' : Ring} (h : ring.SameOutline ring') (p : Coord) :
    ring.contains p = ring'.contains p := by
  rcases h with rfl | ⟨vertices, k, hlength, hring, hring'⟩
  · rfl
  · have hrotated : 3 ≤ (vertices.rotate k).length := by rwa [List.length_rotate]
    rw [hring.contains_eq hlength, hring'.contains_eq hrotated, contains_rotate]

end Ring

/-- A list in another order, with each item related to the one in its place. -/
def Rearranged {α : Type} (R : α → α → Prop) (items items' : List α) : Prop :=
  ∃ reordered, items.Perm reordered ∧ List.Forall₂ R reordered items'

/-- A test on which all related items agree counts as many in both lists. -/
theorem Rearranged.countP_eq {α : Type} {R : α → α → Prop} {items items' : List α}
    (h : Rearranged R items items') {test : α → Bool} (htest : ∀ a b, R a b → test a = test b) :
    items.countP test = items'.countP test := by
  obtain ⟨reordered, hperm, heach⟩ := h
  rw [hperm.countP_eq]
  clear hperm
  induction heach with
  | nil => rfl
  | cons hab _ ih => rw [List.countP_cons, List.countP_cons, htest _ _ hab, ih]

/-- Polygons of the same rings, in any order and each in any written form. -/
def SamePolygon (rings rings' : List Ring) : Prop := Rearranged Ring.SameOutline rings rings'

/-- Geometries of the same polygons, in any order and each in any written form. -/
def PolygonGeometry.SameArea (g g' : PolygonGeometry) : Prop :=
  Rearranged SamePolygon g.polygons g'.polygons

/-- **Points of an area.** Geometries of the same polygons contain the same points, whatever the
order of their polygons and rings and wherever their rings start and end. -/
theorem contains_eq_of_sameArea {g g' : PolygonGeometry} (h : g.SameArea g') (p : Coord) :
    g.contains p = g'.contains p := by
  have hpolygon : ∀ rings rings', SamePolygon rings rings' →
      ((rings.countP fun ring => ring.contains p) % 2 == 1) =
        ((rings'.countP fun ring => ring.contains p) % 2 == 1) := by
    intro rings rings' hrings
    rw [hrings.countP_eq fun ring ring' hring => hring.contains_eq p]
  have hcount := h.countP_eq hpolygon
  rw [Bool.eq_iff_iff, PolygonGeometry.contains, PolygonGeometry.contains, List.any_eq_true,
    List.any_eq_true, ← List.countP_pos_iff, ← List.countP_pos_iff, hcount]

/-- A square with a hole and a triangle, in two written forms. In the second one the triangle
comes first and is closed by a vertex with a negative zero, and the hole comes before the square. -/
theorem contains_eq_of_sameArea_hole :
    let square : Ring := [⟨0, 0⟩, ⟨4, 0⟩, ⟨4, 4⟩, ⟨0, 4⟩]
    let hole : Ring := [⟨1, 1⟩, ⟨2, 1⟩, ⟨2, 2⟩]
    let triangle : Ring := [⟨0, 9⟩, ⟨5, 9⟩, ⟨0, 14⟩]
    let g := PolygonGeometry.multiPolygon [[square ++ [⟨0, 0⟩], hole], [triangle]]
    let g' := PolygonGeometry.multiPolygon
      [[triangle ++ [⟨-0, 9⟩]], [hole.rotate 1 ++ [⟨2, 1⟩], square.rotate 3]]
    g.SameArea g' ∧ ∀ p, g.contains p = g'.contains p := by
  intro square hole triangle g g'
  have hsquare : Ring.SameOutline (square ++ [⟨0, 0⟩]) (square.rotate 3) :=
    .inr ⟨square, 3, by decide, .inr ⟨⟨0, 0⟩, ⟨0, 0⟩, rfl, .inl rfl, rfl⟩, .inl rfl⟩
  have hhole : Ring.SameOutline hole (hole.rotate 1 ++ [⟨2, 1⟩]) :=
    .inr ⟨hole, 1, by decide, .inl rfl, .inr ⟨⟨2, 1⟩, ⟨2, 1⟩, rfl, .inl rfl, rfl⟩⟩
  have htriangle : Ring.SameOutline triangle (triangle ++ [⟨-0, 9⟩]) :=
    .inr ⟨triangle, 0, by decide, .inl rfl,
      .inr ⟨⟨0, 9⟩, ⟨-0, 9⟩, rfl, .inr (by decide +kernel), rfl⟩⟩
  have hpolygon : SamePolygon [square ++ [⟨0, 0⟩], hole]
      [hole.rotate 1 ++ [⟨2, 1⟩], square.rotate 3] :=
    ⟨[hole, square ++ [⟨0, 0⟩]], .swap _ _ _, .cons hhole (.cons hsquare .nil)⟩
  have hswap : g.polygons.Perm [[triangle], [square ++ [⟨0, 0⟩], hole]] := by
    exact List.Perm.swap _ _ []
  have harea : g.SameArea g' :=
    ⟨_, hswap, .cons ⟨[triangle], .refl _, .cons htriangle .nil⟩ (.cons hpolygon .nil)⟩
  exact ⟨harea, contains_eq_of_sameArea harea⟩

end GeoDrafts
