import GeoDrafts.Format.Wkt.Token
import GeoDrafts.Geometry.Basic

/-!
Geometries written in well-known text. A geometry is the word of its kind, perhaps a word for
the number of dimensions, and either `EMPTY` or its content in parentheses. Each reader takes a
list of tokens and returns what it read with the tokens after it, or the tokens at which it
stopped with what is wrong there.
-/

namespace GeoDrafts.Wkt

/-- Where reading stopped, and what is wrong there. -/
structure Stop where
  rest : List Lexeme
  fault : WktFault
  deriving Repr

/-- The place at which reading stopped; `finish` is the end of the text. -/
def Stop.offset (finish : Nat) (s : Stop) : Nat :=
  match s.rest with
  | [] => finish
  | l :: _ => l.offset

def kindWord : GeometryKind → String
  | .point => "POINT"
  | .multiPoint => "MULTIPOINT"
  | .lineString => "LINESTRING"
  | .linearRing => "LINEARRING"
  | .multiLineString => "MULTILINESTRING"
  | .polygon => "POLYGON"
  | .multiPolygon => "MULTIPOLYGON"
  | .geometryCollection => "GEOMETRYCOLLECTION"

def dimensionWords : List String := ["Z", "M", "ZM"]

/-- The kind that a word names, perhaps with the dimensions in the same word. -/
def kindOfWord? (word : String) : Option GeometryKind :=
  [GeometryKind.point, .multiPoint, .lineString, .linearRing, .multiLineString, .polygon,
    .multiPolygon, .geometryCollection].find? fun kind =>
      kindWord kind == word || dimensionWords.any fun d => kindWord kind ++ d == word

def skipDimensions : List Lexeme → List Lexeme
  | ts@(⟨_, .word w⟩ :: rest) => if w ∈ dimensionWords then rest else ts
  | ts => ts

def afterEmpty? : List Lexeme → Option (List Lexeme)
  | ⟨_, .word w⟩ :: rest => if w = "EMPTY" then some rest else none
  | _ => none

def readOpen : List Lexeme → Except Stop (List Lexeme)
  | ⟨_, .opening⟩ :: rest => .ok rest
  | ts => .error ⟨ts, .expectedOpen⟩

def readClose : List Lexeme → Except Stop (List Lexeme)
  | ⟨_, .closing⟩ :: rest => .ok rest
  | ts => .error ⟨ts, .expectedClose⟩

def spanNumbers : List Lexeme → List Float × List Lexeme
  | ⟨_, .number x⟩ :: rest => ((spanNumbers rest).1.cons x, (spanNumbers rest).2)
  | ts => ([], ts)

/-- A coordinate: two to four numbers, of which the first two count. -/
def readCoord (ts : List Lexeme) : Except Stop (Coord × List Lexeme) :=
  let (numbers, rest) := spanNumbers ts
  match numbers with
  | [x, y] | [x, y, _] | [x, y, _, _] => .ok (⟨x, y⟩, rest)
  | _ => .error ⟨rest, .coordinateCount⟩

section
variable {α : Type}

/-- The items after the first of a list, each after a comma; `read` holds the items so far in
reverse. There are at most as many as tokens. -/
def readMore (item : List Lexeme → Except Stop (α × List Lexeme)) :
    Nat → List α → List Lexeme → Except Stop (List α × List Lexeme)
  | fuel + 1, read, ⟨_, .comma⟩ :: rest => do
    let (x, rest) ← item rest
    readMore item fuel (x :: read) rest
  | _, read, ts => .ok (read.reverse, ts)

/-- A list in parentheses of at least one item. -/
def readList (item : List Lexeme → Except Stop (α × List Lexeme)) (ts : List Lexeme) :
    Except Stop (List α × List Lexeme) := do
  let ts ← readOpen ts
  let (first, ts) ← item ts
  let (items, ts) ← readMore item ts.length [first] ts
  let ts ← readClose ts
  .ok (items, ts)

end

def readLine (ts : List Lexeme) : Except Stop (Ring × List Lexeme) := readList readCoord ts

def readLines (ts : List Lexeme) : Except Stop (List Ring × List Lexeme) := readList readLine ts

def readEnclosed (ts : List Lexeme) : Except Stop (Coord × List Lexeme) := do
  let ts ← readOpen ts
  let (c, ts) ← readCoord ts
  let ts ← readClose ts
  .ok (c, ts)

/-- A point of a list of points, with or without parentheses of its own. -/
def readListedPoint : List Lexeme → Except Stop (Coord × List Lexeme)
  | ts@(⟨_, .opening⟩ :: _) => readEnclosed ts
  | ts => readCoord ts

def build {α : Type} (f : α → Geometry) (reading : Except Stop (α × List Lexeme)) :
    Except Stop (Option Geometry × List Lexeme) :=
  reading.map fun (x, ts) => (some (f x), ts)

/-- The geometry of a kind without content. A point without content is no geometry. -/
def emptyOf : GeometryKind → Option Geometry
  | .point => none
  | .multiPoint => some (.multiPoint [])
  | .lineString => some (.lineString [])
  | .linearRing => some (.linearRing [])
  | .multiLineString => some (.multiLineString [])
  | .polygon => some (.polygon [])
  | .multiPolygon => some (.multiPolygon [])
  | .geometryCollection => some (.collection [])

/-- A geometry, around which `room` more collections with content may be opened. -/
def readGeometry (room : Nat) (ts : List Lexeme) :
    Except Stop (Option Geometry × List Lexeme) :=
  match ts with
  | ⟨_, .word word⟩ :: rest =>
    let rest := skipDimensions rest
    match kindOfWord? word with
    | none => .error ⟨ts, .unknownKind word⟩
    | some kind =>
      match afterEmpty? rest with
      | some rest => .ok (emptyOf kind, rest)
      | none =>
        match kind with
        | .point => build .point (readEnclosed rest)
        | .multiPoint => build .multiPoint (readList readListedPoint rest)
        | .lineString => build .lineString (readLine rest)
        | .linearRing => build .linearRing (readLine rest)
        | .multiLineString => build .multiLineString (readLines rest)
        | .polygon => build .polygon (readLines rest)
        | .multiPolygon => build .multiPolygon (readList readLines rest)
        | .geometryCollection =>
          match room with
          | 0 => .error ⟨ts, .tooDeep⟩
          | room + 1 =>
            build (fun children => .collection (children.filterMap id))
              (readList (readGeometry room) rest)
  | _ => .error ⟨ts, .expectedKind⟩

/-- A geometry and nothing after it. -/
def readPhrase (ts : List Lexeme) : Except Stop (Option Geometry) := do
  let (g, rest) ← readGeometry maxCollectionDepth ts
  if rest.isEmpty then .ok g else .error ⟨rest, .trailingInput⟩

end GeoDrafts.Wkt
