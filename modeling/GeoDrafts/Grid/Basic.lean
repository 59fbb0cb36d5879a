import GeoDrafts.Decimal.Layout
import GeoDrafts.Text.Blank

/-!
Grid shapes, their names, and the reasons why a grid cannot be laid.
-/

namespace GeoDrafts

/-- The shapes of grid cells. A hexagon lies on a side, which is the cell size; a triangle is half
a square, cut along the rising diagonal. -/
inductive GridShape where
  | square
  | hexagon
  | triangle
  deriving DecidableEq, Repr

inductive GridError where
  | unknownShape (name : String)
  | invalidCellSize (size : Float)
  | emptyGeometry
  | invalidExtent
  | tooManyCells (count : Nat)
  deriving DecidableEq, Repr

/-- The most cells that a grid may have before cells off the geometry are dropped. -/
def maxGridCells : Nat := 10000

def GridError.message : GridError → String
  | .unknownShape name => "unknown grid shape: " ++ name
  | .invalidCellSize size => "invalid cell size: " ++ Decimal.Layout.message.write size
  | .emptyGeometry => "geometry has no extent"
  | .invalidExtent => "geometry extent is not finite"
  | .tooManyCells count =>
    "grid would produce " ++ toString count ++ " cells, limit is " ++ toString maxGridCells

namespace GridShape

def name : GridShape → String
  | .square => "square"
  | .hexagon => "hexagon"
  | .triangle => "triangle"

/-- The shape that a text names, without regard to ASCII case and to blanks around the name. -/
def ofName (text : String) : Except GridError GridShape :=
  match (Text.trim text).toLower with
  | "square" | "squaregrid" => .ok .square
  | "hexagon" | "hex" | "hexgrid" => .ok .hexagon
  | "triangle" | "trianglegrid" => .ok .triangle
  | _ => .error (.unknownShape text)

end GridShape

def isCellSize (size : Float) : Bool := size.isFinite && 0.0 < size

end GeoDrafts
