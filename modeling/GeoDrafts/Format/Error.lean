/-!
Why a payload cannot be read: the causes, each with the text that is shown for it.
-/

namespace GeoDrafts

/-- A well-formed document of the wrong kind or shape. -/
inductive DocumentFault where
  | notObject
  | missingType
  | missingFeatures
  | notFeature
  | wrongRoot (found expected : String)
  | tooDeep
  | secondRoot
  | unclosed
  | noRoot
  deriving DecidableEq, Repr

inductive GeometryFault where
  | notArray
  | positionNotArray
  | positionTooShort
  | missingCoordinates (kind : String)
  | missingGeometries
  | unsupportedKind (kind : String)
  | noRings
  | unrecognizedRecord
  | missingAttribute (element name : String)
  | invalidNumber (name raw : String)
  | emptyPoint
  | noOuterBoundary
  | invalidTuple (raw : String)
  deriving DecidableEq, Repr

inductive WktFault where
  | strayText (text : String)
  | expectedOpen
  | expectedClose
  | expectedKind
  | trailingInput
  | unknownKind (word : String)
  | coordinateCount
  | tooDeep
  deriving DecidableEq, Repr

def maxElementDepth : Nat := 256

/-- The deepest nesting of geometry collections in well-known text. -/
def maxCollectionDepth : Nat := 128

inductive DecodeError where
  | json
  | markup
  | attribute
  | document (fault : DocumentFault)
  | geometry (fault : GeometryFault)
  | wkt (offset : Nat) (fault : WktFault)
  deriving DecidableEq, Repr

def DocumentFault.message : DocumentFault → String
  | .notObject => "expected a JSON object"
  | .missingType => "missing \"type\" member"
  | .missingFeatures => "FeatureCollection without features"
  | .notFeature => "FeatureCollection member is not a Feature"
  | .wrongRoot found expected =>
    "root element is <" ++ found ++ ">, expected <" ++ expected ++ ">"
  | .tooDeep => "elements nested deeper than " ++ toString maxElementDepth
  | .secondRoot => "more than one root element"
  | .unclosed => "unclosed element at end of document"
  | .noRoot => "no root element"

def GeometryFault.message : GeometryFault → String
  | .notArray => "expected an array"
  | .positionNotArray => "position is not an array"
  | .positionTooShort => "position needs two numbers"
  | .missingCoordinates kind => kind ++ " without coordinates"
  | .missingGeometries => "GeometryCollection without geometries"
  | .unsupportedKind kind => "unsupported geometry type '" ++ kind ++ "'"
  | .noRings => "polygon has no rings"
  | .unrecognizedRecord => "unrecognized Esri geometry"
  | .missingAttribute element name => "<" ++ element ++ "> without " ++ name
  | .invalidNumber name raw => "invalid " ++ name ++ ": '" ++ raw ++ "'"
  | .emptyPoint => "Point without coordinates"
  | .noOuterBoundary => "Polygon without outer boundary"
  | .invalidTuple raw => "invalid coordinate tuple '" ++ raw ++ "'"

def WktFault.message : WktFault → String
  | .strayText text => "unexpected character '" ++ text ++ "'"
  | .expectedOpen => "expected Open"
  | .expectedClose => "expected Close"
  | .expectedKind => "expected a geometry type"
  | .trailingInput => "trailing input after geometry"
  | .unknownKind word => "unknown geometry type '" ++ word ++ "'"
  | .coordinateCount => "expected 2 to 4 coordinate values"
  | .tooDeep =>
    "geometry collections nested deeper than " ++ toString maxCollectionDepth

def DecodeError.message : DecodeError → String
  | .json => "invalid JSON"
  | .markup => "invalid XML"
  | .attribute => "invalid XML attribute"
  | .document fault => "unexpected document: " ++ fault.message
  | .geometry fault => "invalid geometry: " ++ fault.message
  | .wkt offset fault => "invalid WKT at offset " ++ toString offset ++ ": " ++ fault.message

end GeoDrafts
