import GeoDrafts.Decimal.Dyadic
import GeoDrafts.Geometry.Extent
import GeoDrafts.Geometry.Projection
import GeoDrafts.Grid.Basic

/-!
Tiling a geometry with grid cells. The grid is laid over the bounding box, column by column from
the lower left corner; a cell is kept if it touches the geometry, and is not clipped to it. The
number of candidate cells is limited before any of them is made.
-/

namespace GeoDrafts.Grid

/-- The steps that cover an extent, at least one. An unbounded quotient has infinitely many. -/
def stepCount (extent step : Float) : Float := larger (Decimal.roundUp (extent / step)) 1.0

/-- The distance between two rows of hexagons. -/
def hexagonStep (side : Float) : Float := (3.0 : Float).sqrt * side

/-- The columns and rows of a grid, which may be too many for any grid, and the cells in each
place. -/
structure Plan where
  columns : Float
  rows : Float
  perPlace : Nat

/-- A grid of hexagons has one column and one row more. -/
def Plan.ofBox (shape : GridShape) (size : Float) (box : Box) : Plan :=
  let width := box.high.x - box.low.x
  let height := box.high.y - box.low.y
  match shape with
  | .square => ⟨stepCount width size, stepCount height size, 1⟩
  | .triangle => ⟨stepCount width size, stepCount height size, 2⟩
  | .hexagon =>
    ⟨stepCount width (1.5 * size) + 1.0, stepCount height (hexagonStep size) + 1.0, 1⟩

/-- The number of cells, in floating point. -/
def Plan.count (p : Plan) : Float := p.columns * p.rows * Float.ofNat p.perPlace

/-- The columns and rows as whole numbers, if the cells are not too many. -/
def Plan.dimensions (p : Plan) : Except GridError (Nat × Nat) :=
  if !p.count.isFinite || Float.ofNat maxGridCells < p.count then
    .error (.tooManyCells (Decimal.saturated (smaller p.count (Float.ofNat (Nat.pow 2 64 - 1)))))
  else .ok (Decimal.saturated p.columns, Decimal.saturated p.rows)

/-- The places of a grid, column by column. -/
def places (columns rows : Nat) : List (Nat × Nat) :=
  (List.range columns).flatMap fun i => (List.range rows).map fun j => (i, j)

def squareCell (low : Coord) (size : Float) (i j : Nat) : Ring :=
  let x := low.x + Float.ofNat i * size
  let y := low.y + Float.ofNat j * size
  [⟨x, y⟩, ⟨x + size, y⟩, ⟨x + size, y + size⟩, ⟨x, y + size⟩, ⟨x, y⟩]

/-- The two triangles below and above the rising diagonal of a square cell. -/
def triangleCells (low : Coord) (size : Float) (i j : Nat) : List Ring :=
  match squareCell low size i j with
  | a :: b :: c :: d :: _ => [[a, b, c, a], [a, c, d, a]]
  | _ => []

/-- A hexagon; every other column is shifted up by half a row. -/
def hexagonCell (low : Coord) (side : Float) (i j : Nat) : Ring :=
  let step := hexagonStep side
  let shift := if i % 2 = 1 then step / 2.0 else 0.0
  let x := low.x + Float.ofNat i * 1.5 * side
  let y := low.y + Float.ofNat j * step + shift
  let vertex (k : Nat) : Coord :=
    let angle := Projection.radians (60.0 * Float.ofNat k)
    ⟨x + side * angle.cos, y + side * angle.sin⟩
  [vertex 0, vertex 1, vertex 2, vertex 3, vertex 4, vertex 5, vertex 0]

def cellsAt (shape : GridShape) (low : Coord) (size : Float) (i j : Nat) : List Ring :=
  match shape with
  | .square => [squareCell low size i j]
  | .triangle => triangleCells low size i j
  | .hexagon => [hexagonCell low size i j]

/-- The cells of a grid over a box, before those off the geometry are dropped. -/
def candidates (shape : GridShape) (size : Float) (box : Box) : Except GridError (List Ring) := do
  let (columns, rows) ← (Plan.ofBox shape size box).dimensions
  .ok ((places columns rows).flatMap fun (i, j) => cellsAt shape box.low size i j)

def segments (line : Ring) : List (Coord × Coord) := line.zip line.tail

/-- Twice the signed area of a triangle. -/
def orientation (p q r : Coord) : Float := (q.x - p.x) * (r.y - p.y) - (q.y - p.y) * (r.x - p.x)

/-- Whether two segments cross, each end of one on another side of the other. -/
def segmentsCross (s t : Coord × Coord) : Bool :=
  let (a, b) := s
  let (c, d) := t
  let d1 := orientation c d a
  let d2 := orientation c d b
  let d3 := orientation a b c
  let d4 := orientation a b d
  (decide (0.0 < d1) != decide (0.0 < d2)) && (decide (0.0 < d3) != decide (0.0 < d4)) &&
    d1 != 0.0 && d2 != 0.0

def centroid (corners : List Coord) : Coord :=
  let count := Float.ofNat corners.length
  ⟨(corners.map (·.x)).foldl (· + ·) 0.0 / count, (corners.map (·.y)).foldl (· + ·) 0.0 / count⟩

/-- Whether a cell and a geometry with the given segments overlap: the geometry holds the cell's
centre or a corner, or the cell holds a coordinate of the geometry, or their borders cross. -/
def touches (g : PolygonGeometry) (border : List (Coord × Coord)) (cell : Ring) : Bool :=
  let corners := cell.dropLast
  g.contains (centroid corners) || corners.any g.contains ||
    g.coords.any (PolygonGeometry.ofRing cell).contains ||
    (segments cell).any fun s => border.any (segmentsCross s)

def cells (g : PolygonGeometry) (shape : GridShape) (size : Float) :
    Except GridError (List PolygonGeometry) :=
  if !isCellSize size then .error (.invalidCellSize size)
  else
    match g.boundingBox? with
    | none => .error .emptyGeometry
    | some box =>
      if (box.high.x - box.low.x).isFinite && (box.high.y - box.low.y).isFinite then do
        let rings ← candidates shape size box
        let border := g.polygons.flatten.flatMap segments
        .ok ((rings.filter (touches g border)).map PolygonGeometry.ofRing)
      else .error .invalidExtent

end GeoDrafts.Grid
