import GeoDrafts.Decimal.Dyadic
import GeoDrafts.Decimal.Reading
import GeoDrafts.Json.Document
import GeoDrafts.Text.Blank

/-!
Task indices. An identifier from a document is a number or a text; it denotes an index if it is a
whole number from zero up to `2 ^ 64 - 1`. Blank, negative, fractional and other values denote
none.
-/

namespace GeoDrafts

/-- An identifier as a document gives it. -/
inductive RawId where
  | number (x : Float)
  | text (s : String)
  deriving DecidableEq, Repr

/-- The index that a text writes, as digits or as any number. -/
def indexOfText? (s : String) : Option Nat :=
  let cs := Text.trimChars s.toList
  match Decimal.readNatural? cs with
  | some n => some n
  | none => (Decimal.readFloat? cs).bind Decimal.naturalOfFloat?

namespace RawId

def index? : RawId → Option Nat
  | .number x => Decimal.naturalOfFloat? x
  | .text s => indexOfText? s

/-- The identifier that a value holds. Whole numbers become doubles. -/
def ofJson? : Json → Option RawId
  | .text s => some (.text s)
  | .number n => some (.number n.toFloat)
  | _ => none

def toJson : RawId → Json
  | .number x => .number (.double x)
  | .text s => .text s

def ofDocument? : Json.Document → Option RawId
  | .text s => s.map .text
  | .number n => n.map fun n => .number n.toFloat
  | _ => none

end RawId

def Json.index? (v : Json) : Option Nat := (RawId.ofJson? v).bind RawId.index?

def indexOfInt? (n : Int) : Option Nat := if 0 ≤ n ∧ n < Nat.pow 2 64 then some n.toNat else none

/-- Values that may denote a task index. -/
class TaskIndex (α : Type) where
  index? : α → Option Nat

namespace TaskIndex

instance : TaskIndex String := ⟨indexOfText?⟩

instance : TaskIndex Float := ⟨Decimal.naturalOfFloat?⟩

instance : TaskIndex UInt64 := ⟨fun n => some n.toNat⟩

instance : TaskIndex Int64 := ⟨fun n => indexOfInt? n.toInt⟩

instance : TaskIndex RawId := ⟨RawId.index?⟩

instance : TaskIndex Json := ⟨Json.index?⟩

instance {α : Type} [TaskIndex α] : TaskIndex (Option α) := ⟨fun v => v.bind index?⟩

end TaskIndex

end GeoDrafts
