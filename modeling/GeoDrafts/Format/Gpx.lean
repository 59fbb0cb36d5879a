import GeoDrafts.Feature.Basic
import GeoDrafts.Format.Measure
import GeoDrafts.Markup.Element

/-!
GPX: waypoints, routes and tracks, with their simple text children as properties.
-/

namespace GeoDrafts.Gpx

open Markup

/-- The place of a point element, which needs both attributes. -/
def readPoint (e : Element) : Except DecodeError Coord :=
  match e.attribute? "lat", e.attribute? "lon" with
  | none, _ => .error (.geometry (.missingAttribute e.name "lat"))
  | some _, none => .error (.geometry (.missingAttribute e.name "lon"))
  | some lat, some lon => do
    let x ← readMeasure "lon" lon
    let y ← readMeasure "lat" lat
    .ok ⟨x, y⟩

def readPoints : List Element → Except DecodeError Ring
  | [] => .ok []
  | e :: es => do
    let c ← readPoint e
    let cs ← readPoints es
    .ok (c :: cs)

def readSegments : List Element → Except DecodeError (List Ring)
  | [] => .ok []
  | e :: es => do
    let line ← readPoints (e.childrenNamed "trkpt")
    let lines ← readSegments es
    .ok (line :: lines)

def readGeometry? (e : Element) : Except DecodeError (Option Geometry) :=
  if e.name = "wpt" then (readPoint e).map fun c => some (.point c)
  else if e.name = "rte" then
    (readPoints (e.childrenNamed "rtept")).map fun line => some (.lineString line)
  else if e.name = "trk" then
    (readSegments (e.childrenNamed "trkseg")).map fun lines => some (.multiLineString lines)
  else .ok none

/-- The children that hold text and no elements, as properties. -/
def metadata (e : Element) : Json.Members :=
  Json.ofTexts <| (e.children.filter fun c => c.children.isEmpty && !c.text.isEmpty).map
    fun c => (c.name, c.text)

def readFeatures : List Element → Except DecodeError (List Feature)
  | [] => .ok []
  | e :: es => do
    let geometry ← readGeometry? e
    let features ← readFeatures es
    .ok ((geometry.map fun g => Feature.mk (some g) (metadata e)).toList ++ features)

def decode (text : String) : Except DecodeError (List Feature) := do
  let root ← Element.readNamed "gpx" text
  readFeatures root.children

end GeoDrafts.Gpx
