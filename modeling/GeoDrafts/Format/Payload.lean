import GeoDrafts.Format.Esri
import GeoDrafts.Format.GeoJson
import GeoDrafts.Format.Gpx
import GeoDrafts.Format.Kml
import GeoDrafts.Format.Osm
import GeoDrafts.Format.Wkt

/-!
Payloads of unknown format. The formats are tried in a fixed order; the first that reads at
least one feature is the format of the payload.
-/

namespace GeoDrafts

inductive PayloadFormat where
  | geoJson
  | osmXml
  | gpx
  | esriJson
  | kml
  | wkt
  deriving DecidableEq, Repr

namespace PayloadFormat

def name : PayloadFormat → String
  | .geoJson => "geojson"
  | .osmXml => "osm-xml"
  | .gpx => "gpx"
  | .esriJson => "esri-json"
  | .kml => "kml"
  | .wkt => "wkt"

/-- All formats, in the order in which they are tried. -/
def all : List PayloadFormat := [.geoJson, .osmXml, .gpx, .esriJson, .kml, .wkt]

def ofName? (name : String) : Option PayloadFormat := all.find? fun f => f.name == name

def decode : PayloadFormat → String → Except DecodeError (List Feature)
  | .geoJson => GeoJson.decode
  | .osmXml => Osm.decode
  | .gpx => Gpx.decode
  | .esriJson => Esri.decode
  | .kml => Kml.decode
  | .wkt => Wkt.decode

def features? (format : PayloadFormat) (text : String) : Option (List Feature) :=
  match format.decode text with
  | .ok [] => none
  | .ok features => some features
  | .error _ => none

end PayloadFormat

/-- The text of a payload without a byte order mark, if its bytes are a text. -/
def payloadText? (payload : ByteArray) : Option String :=
  match payload.toList with
  | 0xEF :: 0xBB :: 0xBF :: rest => String.fromUTF8? rest.toByteArray
  | _ => String.fromUTF8? payload

/-- The first of some formats that reads a text, with the features. -/
def detectText? (formats : List PayloadFormat) (text : String) :
    Option (PayloadFormat × List Feature) :=
  formats.findSome? fun format => (format.features? text).map fun features => (format, features)

def detect? (formats : List PayloadFormat) (payload : ByteArray) :
    Option (PayloadFormat × List Feature) :=
  (payloadText? payload).bind (detectText? formats)

end GeoDrafts
