import GeoDrafts.Text.Blank
import GeoDrafts.Text.Numeral

/-!
Tables of characters. A table is a text of words with blanks between them; a word stands for a run
of consecutive code points and may say something of them: `first-last=value`, with hexadecimal
numbers, or `first=value` for a single one. All tables written so are those of Unicode 17.
-/

namespace GeoDrafts.Text

/-- Consecutive code points, and what a table says of them. -/
structure CodeRun (α : Type) where
  first : Nat
  last : Nat
  value : α

namespace CodeRun

variable {α : Type}

def ofWord? (value? : String → Option α) (word : String) : Option (CodeRun α) :=
  let (ends, value) :=
    match word.splitOn "=" with
    | [ends, value] => (ends, value)
    | _ => (word, "")
  match (ends.splitOn "-").mapM fun code => numeral? 16 code.toList with
  | some [code] => (value? value).map (⟨code, code, ·⟩)
  | some [first, last] => (value? value).map (⟨first, last, ·⟩)
  | _ => none

/-- The runs of a table whose values are read by `value?`. -/
def table (value? : String → Option α) (text : String) : List (CodeRun α) :=
  (words text).filterMap (ofWord? value?)

def bareTable (text : String) : List (CodeRun Unit) := table (fun _ => some ()) text

def contains (run : CodeRun α) (c : Char) : Bool := run.first ≤ c.toNat && c.toNat ≤ run.last

def find? (runs : List (CodeRun α)) (c : Char) : Option (CodeRun α) :=
  List.find? (fun run => run.contains c) runs

def covers (runs : List (CodeRun α)) (c : Char) : Bool := runs.any fun run => run.contains c

/-- The texts for the characters of a run, one after the other: code points with dots between them,
and commas between the texts. -/
def texts? (value : String) : Option (List (List Char)) :=
  (value.splitOn ",").mapM fun text =>
    (text.splitOn ".").mapM fun code => (numeral? 16 code.toList).map Char.ofNat

def textOf? (runs : List (CodeRun (List (List Char)))) (c : Char) : Option (List Char) :=
  (find? runs c).bind fun run => run.value[c.toNat - run.first]?

end CodeRun

end GeoDrafts.Text
