import GeoDrafts.Remote.Address

/-!
Loading a payload from an address. Only the two schemes of hypertext are loaded.
-/

namespace GeoDrafts

inductive FetchError where
  /-- The address is malformed. -/
  | malformed (url : String)
  | unsupportedScheme (url scheme : String)
  /-- No answer came. -/
  | request (reason : String)
  /-- The answer says that there is no payload. -/
  | status (url : String) (code : Nat)
  deriving DecidableEq, Repr

def FetchError.message : FetchError → String
  | .malformed url => "invalid URL '" ++ url ++ "': malformed address"
  | .unsupportedScheme url scheme =>
    "invalid URL '" ++ url ++ "': unsupported scheme '" ++ scheme ++ "'"
  | .request reason => "request failed: " ++ reason
  | .status url code => "server returned HTTP " ++ toString code ++ " for " ++ url

/-- The scheme of an address that can be loaded. Blanks around the address do not count. -/
def checkAddress (url : String) : Except FetchError String :=
  match Address.scheme? (Text.trim url) with
  | none => .error (.malformed url)
  | some scheme =>
    if scheme = "http" ∨ scheme = "https" then .ok scheme
    else .error (.unsupportedScheme url scheme)

inductive Answer where
  | status (code : Nat)
  | body (payload : ByteArray)

def fetchFrom (answer : Answer) (url : String) : Except FetchError ByteArray :=
  match checkAddress url with
  | .error e => .error e
  | .ok _ =>
    match answer with
    | .status code => .error (.status url code)
    | .body payload => .ok payload

end GeoDrafts
