import GeoDrafts.Decimal.Reading
import GeoDrafts.Format.Error
import GeoDrafts.Text.Blank

/-!
Numbers in markup documents: the text of a finite double, perhaps with blanks around it.
-/

namespace GeoDrafts

/-- The number that a text writes; `name` says in an error what it should have been. -/
def readMeasure (name raw : String) : Except DecodeError Float :=
  match Decimal.readFloat? (Text.trimChars raw.toList) with
  | some x => if x.isFinite then .ok x else .error (.geometry (.invalidNumber name raw))
  | none => .error (.geometry (.invalidNumber name raw))

end GeoDrafts
