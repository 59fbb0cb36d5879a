import GeoDrafts.Draft.Basic
import GeoDrafts.Feature.Record
import GeoDrafts.Format.Payload
import GeoDrafts.Geometry.Extent
import GeoDrafts.Geometry.Projection

/-!
What the program prints: features and drafts as a table or as JSON. Columns are padded by
characters.
-/

namespace GeoDrafts.Report

def blanks (n : Nat) : String := String.ofList (List.replicate n ' ')

/-- Fills a text with blanks on the right. -/
def left (width : Nat) (s : String) : String := s ++ blanks (width - s.length)

/-- Fills a text with blanks on the left. -/
def right (width : Nat) (s : String) : String := blanks (width - s.length) ++ s

def rule (width : Nat) : String := String.ofList (List.replicate width '-')

def row (columns : List String) : String := "  ".intercalate columns

def lines (texts : List String) : String := String.join (texts.map (· ++ "\n"))

/-- A text of at most `width` characters: a longer one ends in three points. -/
def shorten (width : Nat) (s : String) : String :=
  if s.length ≤ width then s else String.ofList (s.toList.take (width - 3)) ++ "..."

/-- The corners of a geometry's box, with fewer places for metres than for degrees. -/
def bounds (projected : Bool) (g : PolygonGeometry) : String :=
  let number := Decimal.fixed (if projected then 1 else 6)
  let corner (c : Coord) := number c.x ++ "," ++ number c.y
  match g.boundingBox? with
  | none => "-"
  | some box => corner box.low ++ " " ++ corner box.high

def vertices (g : PolygonGeometry) : String := right 8 (toString g.coords.length)

def featureRow (number : Nat) (f : PolygonFeature) : String :=
  row [left 5 (toString number), left 13 f.geometry.kind.name, vertices f.geometry,
    (f.propertyText? "name").getD ""]

def featureTable (format : PayloadFormat) (count : Nat) (areas : List PolygonFeature) : String :=
  let head := ["Format: " ++ format.name,
    "Features: " ++ toString count ++ " (" ++ toString areas.length ++ " polygon)"]
  if areas.isEmpty then lines head
  else
    lines (head ++ ["", row [left 5 "#", left 13 "TYPE", right 8 "VERTICES", "NAME"], rule 50] ++
      areas.mapIdx featureRow)

def featureJson (format : PayloadFormat) (count : Nat) (areas : List PolygonFeature) : String :=
  lines [Json.pretty (.object [("format", .text format.name),
    ("features", .number (.whole count)), ("polygons", .array (areas.map PolygonFeature.toJson))])]

def draftRow (projected : Bool) (d : TaskDraft) : String :=
  row [left 6 d.id, left 20 (shorten 20 d.name), left 13 d.geometry.kind.name,
    vertices d.geometry, right 6 (toString d.processPoints), bounds projected d.geometry]

def draftTable (projected : Bool) (drafts : List TaskDraft) : String :=
  if drafts.isEmpty then lines ["No task drafts."]
  else
    lines ([row [left 6 "ID", left 20 "NAME", left 13 "TYPE", right 8 "VERTICES",
        right 6 "POINTS", "BOUNDS"], rule 90] ++ drafts.map (draftRow projected) ++
      ["", toString drafts.length ++ " draft(s)"])

def draftJson (drafts : List TaskDraft) : String :=
  lines [Json.pretty (.array (drafts.map TaskDraft.toJson))]

end GeoDrafts.Report
