import GeoDrafts.Geometry.Basic

/-!
Where a geometry lies: its bounding box, and the even-odd test for a point. A point is inside a
ring if a ray from it crosses the ring's edges an odd number of times, and inside a polygon if it
is inside an odd number of its rings, so holes are excluded.
-/

namespace GeoDrafts

/-- The smaller of two numbers, of equal ones (the two zeros) the second; a number counts as
smaller than NaN. -/
def smaller (a b : Float) : Float := if b.isNaN || a < b then a else b

/-- The larger of two numbers, of equal ones (the two zeros) the second; a number counts as
larger than NaN. -/
def larger (a b : Float) : Float := if b.isNaN || b < a then a else b

structure Box where
  low : Coord
  high : Coord
  deriving DecidableEq, Repr

def Box.extend (b : Box) (c : Coord) : Box where
  low := ⟨smaller b.low.x c.x, smaller b.low.y c.y⟩
  high := ⟨larger b.high.x c.x, larger b.high.y c.y⟩

def PolygonGeometry.boundingBox? (g : PolygonGeometry) : Option Box :=
  match g.coords with
  | [] => none
  | c :: cs => some (cs.foldl Box.extend ⟨c, c⟩)

namespace Ring

/-- Every coordinate with the one before it; before the first comes the last. -/
def edges (ring : Ring) : List (Coord × Coord) :=
  match ring.getLast? with
  | none => []
  | some last => ring.zip (last :: ring)

/-- Whether the ray from a point towards growing `x` crosses an edge. -/
def crosses (p : Coord) (edge : Coord × Coord) : Bool :=
  let (a, b) := edge
  (decide (p.y < a.y) != decide (p.y < b.y)) &&
    decide (p.x < (b.x - a.x) * (p.y - a.y) / (b.y - a.y) + a.x)

/-- Whether a point lies inside a ring, which has at least three coordinates. -/
def contains (ring : Ring) (p : Coord) : Bool :=
  decide (3 ≤ ring.length) && (edges ring).countP (crosses p) % 2 == 1

end Ring

def PolygonGeometry.contains (g : PolygonGeometry) (p : Coord) : Bool :=
  g.polygons.any fun rings => (rings.countP fun ring => Ring.contains ring p) % 2 == 1

end GeoDrafts
