import GeoDrafts.Feature.Basic
import GeoDrafts.Format.Measure
import GeoDrafts.Markup.Element

/-!
OSM XML: nodes with a place, and ways that refer to nodes. A way is an area if its first and last
references are the same, else a line. A node is a feature of its own only if it is tagged.
-/

namespace GeoDrafts.Osm

open Markup

/-- The identifier and place of a node element that has all of them. -/
def readNode? (e : Element) : Except DecodeError (Option (String × Coord)) :=
  match e.attribute? "id", e.attribute? "lat", e.attribute? "lon" with
  | some id, some lat, some lon => do
    let x ← readMeasure "lon" lon
    let y ← readMeasure "lat" lat
    .ok (some (id, ⟨x, y⟩))
  | _, _, _ => .ok none

/-- The places of nodes by identifier, the last one of the document first. -/
abbrev Places := List (String × Coord)

def readNodes : List Element → Except DecodeError (List (String × Coord))
  | [] => .ok []
  | e :: es => do
    let place ← readNode? e
    let places ← readNodes es
    .ok (place.toList ++ places)

/-- The last place that an identifier was given. -/
def Places.find? (places : Places) (id : String) : Option Coord :=
  (List.find? (fun p => p.1 == id) places).map (·.2)

/-- The tags of an element that have a key and a value. -/
def tags (e : Element) : Json.Members :=
  Json.ofTexts <| (e.childrenNamed "tag").filterMap fun tag => do
    let key ← tag.attribute? "k"
    let value ← tag.attribute? "v"
    some (key, value)

/-- Adds an element's identifier to its properties, unless a tag has that name. -/
def withId (e : Element) (properties : Json.Members) : Json.Members :=
  match e.attribute? "id" with
  | none => properties
  | some id => properties.insertNew "osm_id" (.text id)

def nodeFeature? (places : Places) (e : Element) : Option Feature :=
  if (tags e).isEmpty then none
  else do
    let id ← e.attribute? "id"
    let place ← places.find? id
    some ⟨some (.point place), withId e (tags e)⟩

/-- The feature of a way with at least two references to known nodes. -/
def wayFeature? (places : Places) (e : Element) : Option Feature :=
  let references := (e.childrenNamed "nd").filterMap (·.attribute? "ref")
  let coords := references.filterMap places.find?
  if coords.length < 2 then none
  else
    let geometry :=
      if 2 < references.length ∧ references.head? = references.getLast? then
        Geometry.polygon [coords]
      else .lineString coords
    some ⟨some geometry, withId e (tags e)⟩

def elementFeature? (places : Places) (e : Element) : Option Feature :=
  if e.name = "node" then nodeFeature? places e
  else if e.name = "way" then wayFeature? places e
  else none

/-- The features of a root element, in the order of its children. -/
def ofRoot (root : Element) : Except DecodeError (List Feature) := do
  let nodes ← readNodes (root.childrenNamed "node")
  .ok (root.children.filterMap (elementFeature? nodes.reverse))

def decode (text : String) : Except DecodeError (List Feature) := do
  ofRoot (← Element.readNamed "osm" text)

end GeoDrafts.Osm
