import GeoDrafts.CommandLine.Report
import GeoDrafts.CommandLine.Request
import GeoDrafts.Draft.Intake
import GeoDrafts.Settings

/-!
Running a request. A request names one source; the outer layer loads it, and all else is decided
here from what was loaded.
-/

namespace GeoDrafts

inductive Source where
  | file (name : String)
  | remote (url : String) (timeout : Option Nat)
  deriving DecidableEq, Repr

def Action.source : Action → Source
  | .parse file => .file file
  | .load file _ => .file file
  | .fetch url timeout => .remote url timeout
  | .importProject file => .file file
  | .subdivide file _ _ _ => .file file

/-- A source that gave no payload. -/
inductive LoadError where
  | unreadable (reason : String)
  | fetch (cause : FetchError)
  deriving DecidableEq, Repr

inductive Failure where
  | unreadableFile (name reason : String)
  | draft (cause : DraftError)
  deriving DecidableEq, Repr

def Failure.message : Failure → String
  | .unreadableFile name reason => "Cannot read " ++ name ++ ": " ++ reason
  | .draft cause => cause.message

namespace Action

def loadFailure (a : Action) (e : LoadError) : Failure :=
  match e, a.source with
  | .unreadable reason, .file name => .unreadableFile name reason
  | .unreadable reason, .remote _ _ => .draft (.fetch (.request reason))
  | .fetch cause, _ => .draft (.fetch cause)

def printDrafts (format : OutputFormat) (projected : Bool) (s : DraftStore) : String :=
  let drafts :=
    if projected then s.tasks
    else s.tasks.map fun t => { t with geometry := t.geometry.toGeographic }
  match format with
  | .table => Report.draftTable projected drafts
  | .json => Report.draftJson drafts

def printFeatures (format : OutputFormat) (payload : ByteArray) : String :=
  match detect? PayloadFormat.all payload with
  | none => Report.lines ["No features found."]
  | some (detected, features) =>
    let areas := Feature.normalizeAll features
    match format with
    | .table => Report.featureTable detected features.length areas
    | .json => Report.featureJson detected features.length areas

def storeOf (payload : ByteArray) : Except Failure DraftStore :=
  match DraftStore.empty.addPayload payload with
  | (.error e, _) => .error (.draft e)
  | (.ok _, s) => .ok s

def storeOfExport (name : String) (payload : ByteArray) : Except Failure DraftStore :=
  match String.fromUTF8? payload with
  | none => .error (.unreadableFile name "stream did not contain valid UTF-8")
  | some text =>
    match DraftStore.empty.addExport text with
    | (.error e, _) => .error (.draft e)
    | (.ok _, s) => .ok s

/-- What an action prints, given the payload of its source. A wrong shape name and a user agent that
no request can name count before a missing payload. -/
def run (settings : Settings) (format : OutputFormat) (loaded : Except LoadError ByteArray)
    (a : Action) : Except Failure String := do
  let payload := loaded.mapError a.loadFailure
  match a with
  | .parse _ => .ok (printFeatures format (← payload))
  | .load _ projected => .ok (printDrafts format projected (← storeOf (← payload)))
  | .fetch _ _ =>
    if settings.canRequest then .ok (printDrafts format false (← storeOf (← payload)))
    else .error (.draft (.fetch (.request "invalid user agent")))
  | .importProject name => .ok (printDrafts format false (← storeOfExport name (← payload)))
  | .subdivide _ shapeName size task =>
    let shape ← (GridShape.ofName shapeName).mapError fun e => .draft (.invalidBatchInput e)
    let s ← storeOf (← payload)
    match s.subdivideAll shape (size.getD settings.defaultCellSize) task with
    | (.error e, _) => .error (.draft e)
    | (.ok _, s) => .ok (printDrafts format false s)

end Action

end GeoDrafts
