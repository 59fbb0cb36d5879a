import GeoDrafts.CommandLine.Run

/-!
The program: it reads its arguments, its variables and one file, and prints what the request
gives. Only a local file can be loaded here; a web address is checked and then refused.
-/

namespace GeoDrafts.Program

def readSettings : IO Settings := do
  let timeout ← IO.getEnv "TASKER_FETCH_TIMEOUT_SECS"
  let agent ← IO.getEnv "TASKER_USER_AGENT"
  let size ← IO.getEnv "TASKER_DEFAULT_CELL_SIZE"
  return Settings.ofVariables fun name =>
    match name with
    | "TASKER_FETCH_TIMEOUT_SECS" => timeout
    | "TASKER_USER_AGENT" => agent
    | "TASKER_DEFAULT_CELL_SIZE" => size
    | _ => none

/-- The text for a file that cannot be read. -/
def reasonOf : IO.Error → String
  | .noFileOrDirectory _ _ _ => "No such file or directory (os error 2)"
  | .permissionDenied _ _ _ => "Permission denied (os error 13)"
  | e => toString e

def loadSource : Source → IO (Except LoadError ByteArray)
  | .file name => do
    try
      return .ok (← IO.FS.readBinFile name)
    catch e => return .error (.unreadable (reasonOf e))
  | .remote url _ =>
    return .error (.fetch (match checkAddress url with
      | .error e => e
      | .ok _ => .request "no connection"))

end GeoDrafts.Program

open GeoDrafts in
def main (arguments : List String) : IO UInt32 := do
  match Request.ofArguments arguments with
  | .error e =>
    IO.eprintln e.message
    return UInt32.ofNat e.exitCode
  | .ok request =>
    let settings ← Program.readSettings
    let loaded ← Program.loadSource request.action.source
    match request.action.run settings request.format loaded with
    | .ok text =>
      IO.print text
      return 0
    | .error failure =>
      IO.eprintln ("Error: " ++ failure.message)
      return 1
