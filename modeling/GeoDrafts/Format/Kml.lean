import GeoDrafts.Feature.Basic
import GeoDrafts.Format.Measure
import GeoDrafts.Markup.Element

/-!
KML: every placemark of a document is a feature, with the first geometry among its children.
-/

namespace GeoDrafts.Kml

open Markup

inductive Shape where
  | point
  | lineString
  | linearRing
  | polygon
  | multiGeometry
  deriving DecidableEq, Repr

def Shape.ofName? (name : String) : Option Shape :=
  match name with
  | "Point" => some .point
  | "LineString" => some .lineString
  | "LinearRing" => some .linearRing
  | "Polygon" => some .polygon
  | "MultiGeometry" => some .multiGeometry
  | _ => none

/-- A coordinate written as longitude, latitude and perhaps more, with commas between them. -/
def readTuple (tuple : String) : Except DecodeError Coord :=
  match tuple.toList.dropWhile (· != ',') with
  | _ :: rest => do
    let x ← readMeasure "longitude" (String.ofList (tuple.toList.takeWhile (· != ',')))
    let y ← readMeasure "latitude" (String.ofList (rest.takeWhile (· != ',')))
    .ok ⟨x, y⟩
  | [] => .error (.geometry (.invalidTuple tuple))

def readTuples : List String → Except DecodeError Ring
  | [] => .ok []
  | tuple :: tuples => do
    let c ← readTuple tuple
    let cs ← readTuples tuples
    .ok (c :: cs)

/-- The coordinates of an element, which blanks separate. -/
def readCoordinates (e : Element) : Except DecodeError Ring :=
  match e.child? "coordinates" with
  | none => .ok []
  | some coordinates => readTuples (Text.words coordinates.text)

def readRings : List Element → Except DecodeError (List Ring)
  | [] => .ok []
  | e :: es => do
    let ring ← readCoordinates e
    let rings ← readRings es
    .ok (ring :: rings)

/-- The rings of a polygon element: the outer boundaries, then the inner ones. -/
def boundaries (e : Element) : List Element :=
  (e.childrenNamed "outerBoundaryIs" ++ e.childrenNamed "innerBoundaryIs").filterMap
    (·.child? "LinearRing")

def readPolygon (e : Element) : Except DecodeError Geometry := do
  match ← readRings (boundaries e) with
  | [] => .error (.geometry .noOuterBoundary)
  | rings => .ok (.polygon rings)

def readPoint (e : Element) : Except DecodeError Geometry := do
  match ← readCoordinates e with
  | [] => .error (.geometry .emptyPoint)
  | c :: _ => .ok (.point c)

mutual

def readGeometry (shape : Shape) : Element → Except DecodeError Geometry
  | ⟨name, attributes, children, rawText⟩ =>
    let e : Element := ⟨name, attributes, children, rawText⟩
    match shape with
    | .point => readPoint e
    | .lineString => (readCoordinates e).map .lineString
    | .linearRing => (readCoordinates e).map .linearRing
    | .polygon => readPolygon e
    | .multiGeometry => (readGeometries children).map .collection

def readGeometries : List Element → Except DecodeError (List Geometry)
  | [] => .ok []
  | e :: es =>
    match Shape.ofName? e.name with
    | none => readGeometries es
    | some shape => do
      let g ← readGeometry shape e
      let gs ← readGeometries es
      .ok (g :: gs)

end

/-- The geometry of the first element that is one. -/
def firstGeometry? : List Element → Except DecodeError (Option Geometry)
  | [] => .ok none
  | e :: es =>
    match Shape.ofName? e.name with
    | none => firstGeometry? es
    | some shape => (readGeometry shape e).map some

/-- The name and the description, and the extended data that have a name. -/
def propertyTexts (e : Element) : List (String × String) :=
  let plain := ["name", "description"].filterMap fun key => (e.childText? key).map fun t => (key, t)
  match e.child? "ExtendedData" with
  | none => plain
  | some extended =>
    let data := (extended.childrenNamed "Data").filterMap fun d => do
      let name ← d.attribute? "name"
      let value ← d.child? "value"
      some (name, value.text)
    let simple := (extended.childrenNamed "SchemaData").flatMap fun schema =>
      (schema.childrenNamed "SimpleData").filterMap fun d => do
        let name ← d.attribute? "name"
        some (name, d.text)
    plain ++ data ++ simple

def readPlacemark (e : Element) : Except DecodeError Feature := do
  let geometry ← firstGeometry? e.children
  .ok ⟨geometry, Json.ofTexts (propertyTexts e)⟩

/-- The placemarks of a document: its root, if it is one, and all below it. -/
def placemarks (root : Element) : List Element := Element.namedWithin "Placemark" [root]

def readPlacemarks : List Element → Except DecodeError (List Feature)
  | [] => .ok []
  | e :: es => do
    let feature ← readPlacemark e
    let features ← readPlacemarks es
    .ok (feature :: features)

def decode (text : String) : Except DecodeError (List Feature) := do
  let root ← Element.read text
  readPlacemarks (placemarks root)

end GeoDrafts.Kml
