import GeoDrafts.Decimal.Reading
import GeoDrafts.Grid.Basic
import GeoDrafts.Text.Blank

/-!
Settings from named variables. A variable that is missing or cannot be used leaves the default.
-/

namespace GeoDrafts

structure Settings where
  fetchTimeoutSeconds : Nat
  userAgent : String
  defaultCellSize : Float
  deriving DecidableEq, Repr

namespace Settings

def default : Settings := ⟨30, "tasker/0.1.0", 1000.0⟩

/-- A time in seconds, at least one. -/
def readTimeout? (raw : String) : Option Nat :=
  (Decimal.readNatural? (Text.trimChars raw.toList)).filter fun n => 0 < n

def readCellSize? (raw : String) : Option Float :=
  (Decimal.readFloat? (Text.trimChars raw.toList)).filter isCellSize

/-- Whether a request can name the user agent: it holds no control character other than a tab. -/
def canRequest (s : Settings) : Bool :=
  s.userAgent.toList.all fun c => c == '\t' || (0x20 ≤ c.toNat && c != '\x7f')

def ofVariables (valueOf : String → Option String) : Settings where
  fetchTimeoutSeconds :=
    ((valueOf "TASKER_FETCH_TIMEOUT_SECS").bind readTimeout?).getD default.fetchTimeoutSeconds
  userAgent :=
    (((valueOf "TASKER_USER_AGENT").bind Text.nonBlank?).map Text.trim).getD default.userAgent
  defaultCellSize :=
    ((valueOf "TASKER_DEFAULT_CELL_SIZE").bind readCellSize?).getD default.defaultCellSize

end Settings

end GeoDrafts
