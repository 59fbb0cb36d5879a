import GeoDrafts.Main
import GeoDrafts.Proofs.Draft.Division
import GeoDrafts.Proofs.Draft.Failure
import GeoDrafts.Proofs.Draft.Selection
import GeoDrafts.Proofs.Draft.History
import GeoDrafts.Proofs.Format.Wkt.Nesting
import GeoDrafts.Proofs.Format.Detection
import GeoDrafts.Proofs.Markup.Nesting
import GeoDrafts.Proofs.Markup.Comment
import GeoDrafts.Proofs.Draft.Naming
import GeoDrafts.Proofs.Format.Osm.Ring
import GeoDrafts.Proofs.Format.Esri.Rings
import GeoDrafts.Proofs.Feature.Area
import GeoDrafts.Proofs.Feature.Parts
import GeoDrafts.Proofs.Feature.Mapping
import GeoDrafts.Proofs.Format.OwnRings
import GeoDrafts.Proofs.Draft.Extent
import GeoDrafts.Proofs.Decimal.Exact
import GeoDrafts.Proofs.Decimal.Whole
import GeoDrafts.Proofs.Decimal.Nearest
import GeoDrafts.Proofs.Decimal.Natural
import GeoDrafts.Proofs.Json.Literal
import GeoDrafts.Proofs.Json.Spelling
import GeoDrafts.Proofs.Draft.Exactness
import GeoDrafts.Proofs.Decimal.Error
import GeoDrafts.Proofs.Json.Scaling
import GeoDrafts.Proofs.Format.Kml.Boundary
import GeoDrafts.Proofs.Format.EmbeddedMarkup
import GeoDrafts.Proofs.Decimal.Expansion
import GeoDrafts.Proofs.Format.GeoJson.RoundTrip
import GeoDrafts.Proofs.Format.Wkt.Lexing
import GeoDrafts.Proofs.Format.Wkt.Rendering
import GeoDrafts.Proofs.Format.Wkt.RoundTrip
import GeoDrafts.Proofs.Draft.Allocation
import GeoDrafts.Proofs.Draft.Replacement
import GeoDrafts.Proofs.Draft.Loading
import GeoDrafts.Proofs.Format.Wkt.Characters
import GeoDrafts.Proofs.Format.Exclusion
import GeoDrafts.Proofs.Format.GeoJson.Record
import GeoDrafts.Proofs.Geometry.Containment
import GeoDrafts.Proofs.Format.Osm.Order
import GeoDrafts.Proofs.Markup.Writing
import GeoDrafts.Proofs.Format.Kml.Placemark
import GeoDrafts.Proofs.Format.Wkt.LetterCase
import GeoDrafts.Proofs.Draft.Concatenation
import GeoDrafts.Proofs.Draft.Import
import GeoDrafts.Proofs.Draft.Withdrawal
import GeoDrafts.Proofs.Draft.FreeIndex
import GeoDrafts.Proofs.Grid.Limit
import GeoDrafts.Proofs.Geometry.Mapping
