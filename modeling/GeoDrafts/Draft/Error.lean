import GeoDrafts.Grid.Basic
import GeoDrafts.Remote.Fetch

/-!
Why drafts cannot be added or changed.
-/

namespace GeoDrafts

inductive DraftError where
  | notFound (id : String)
  | unrecognizedPayload
  | noUsableGeometry
  | invalidBatchInput (cause : GridError)
  | fetch (cause : FetchError)
  | importFailed
  deriving DecidableEq, Repr

def DraftError.message : DraftError → String
  | .notFound id => "task draft not found: " ++ id
  | .unrecognizedPayload => "payload format not recognised"
  | .noUsableGeometry => "no usable polygon geometry found"
  | .invalidBatchInput cause => "invalid subdivision input: " ++ cause.message
  | .fetch cause => "fetch failed: " ++ cause.message
  | .importFailed => "import failed: invalid project export"

end GeoDrafts
