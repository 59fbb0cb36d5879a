import GeoDrafts.Draft.Index
import Std.Data.HashSet

/-!
Allocation of the smallest free index. The occupied indices only grow, so the smallest free one
never gets smaller, and each search can go on where the last one ended.
-/

namespace GeoDrafts

/-- Counts from `n` on along a list, up to the first number that is another one. -/
def leastGap (n : Nat) : List Nat → Nat
  | [] => n
  | i :: rest => if i = n then leastGap (n + 1) rest else n

/-- The least natural number that is not in a list. The numbers are counted in ascending order,
each of them once. -/
def leastMissing (indices : List Nat) : Nat :=
  leastGap 0 (indices.mergeSort (· ≤ ·)).eraseReps

/-- The text of the smallest index that none of the values denotes. Values that denote no index
occupy none. -/
def leastMissingText {α : Type} [TaskIndex α] (values : List α) : String :=
  toString (leastMissing (values.filterMap TaskIndex.index?))

/-- The occupied indices, and a number below which all are occupied. -/
structure Allocator where
  occupied : Std.HashSet Nat
  next : Nat

namespace Allocator

def ofList (indices : List Nat) : Allocator := ⟨Std.HashSet.ofList indices, 0⟩

def occupy (a : Allocator) (index : Nat) : Allocator :=
  { a with occupied := a.occupied.insert index }

/-- The first free number from `n` on. The search is over after one step more than there are
occupied numbers. -/
def firstFree (occupied : Std.HashSet Nat) : Nat → Nat → Nat
  | 0, n => n
  | fuel + 1, n => if n ∈ occupied then firstFree occupied fuel (n + 1) else n

/-- The smallest free index, which is occupied from then on. -/
def allocate (a : Allocator) : Nat × Allocator :=
  let n := firstFree a.occupied (a.occupied.size + 1) a.next
  (n, ⟨a.occupied.insert n, n⟩)

end Allocator

end GeoDrafts
