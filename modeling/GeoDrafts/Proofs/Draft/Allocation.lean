import GeoDrafts.Proofs.Draft.Allocator
import GeoDrafts.Proofs.Draft.Index

/-!
Runs of an allocator. Between two allocations any index may be marked as occupied, below the place
where the search starts or above it, and an allocated index is occupied while the search still
starts at it. Whatever the order of the calls, all below that place stays occupied; so each search
finds what a scan from zero over everything occupied by then would find.
-/

namespace GeoDrafts

namespace Allocator

inductive Call where
  | occupy (index : Nat)
  | allocate
  deriving DecidableEq, Repr

namespace Call

def marked? : Call → Option Nat
  | .occupy index => some index
  | .allocate => none

/-- The index that a call returns, and the allocator after it. -/
def run (a : Allocator) : Call → Option Nat × Allocator
  | .occupy index => (none, a.occupy index)
  | .allocate => (some a.allocate.1, a.allocate.2)

end Call

/-- The indices that calls return, in order, and the allocator after them. -/
def runAll (a : Allocator) : List Call → List Nat × Allocator
  | [] => ([], a)
  | c :: calls =>
    (((c.run a).1.toList ++ ((c.run a).2.runAll calls).1), ((c.run a).2.runAll calls).2)

theorem runAll_append (a : Allocator) (before after : List Call) :
    a.runAll (before ++ after) =
      ((a.runAll before).1 ++ ((a.runAll before).2.runAll after).1,
        ((a.runAll before).2.runAll after).2) := by
  induction before generalizing a with
  | nil => rfl
  | cons c before ih => rw [List.cons_append, runAll, ih, runAll, List.append_assoc]

/-- What calls make of an allocator, given what they mark as occupied and what they return. -/
structure Grows (a : Allocator) (marked returned : List Nat) (b : Allocator) : Prop where
  settled : b.Settled
  next_le : a.next ≤ b.next
  mem_occupied : ∀ k, k ∈ b.occupied ↔ k ∈ a.occupied ∨ k ∈ marked ∨ k ∈ returned
  size_le : a.occupied.size ≤ b.occupied.size
  nodup : returned.Nodup
  fresh : ∀ k ∈ returned, k ∉ a.occupied
  le_size : ∀ k ∈ returned, k ≤ b.occupied.size

namespace Grows

variable {a b c : Allocator} {marked returned marked' returned' : List Nat}

theorem refl (h : a.Settled) : Grows a [] [] a where
  settled := h
  next_le := Nat.le_refl _
  mem_occupied := by simp
  size_le := Nat.le_refl _
  nodup := List.nodup_nil
  fresh := by simp
  le_size := by simp

theorem trans (h : Grows a marked returned b) (h' : Grows b marked' returned' c) :
    Grows a (marked ++ marked') (returned ++ returned') c where
  settled := h'.settled
  next_le := h.next_le.trans h'.next_le
  mem_occupied k := by
    rw [h'.mem_occupied, h.mem_occupied]
    simp only [List.mem_append]
    tauto
  size_le := h.size_le.trans h'.size_le
  nodup := by
    refine List.nodup_append.mpr ⟨h.nodup, h'.nodup, fun k hk l hl heq => ?_⟩
    exact h'.fresh l hl ((h.mem_occupied l).mpr (.inr (.inr (heq ▸ hk))))
  fresh k hk hocc := by
    rcases List.mem_append.mp hk with hk | hk
    · exact h.fresh k hk hocc
    · exact h'.fresh k hk ((h.mem_occupied k).mpr (.inl hocc))
  le_size k hk := by
    rcases List.mem_append.mp hk with hk | hk
    · exact (h.le_size k hk).trans h'.size_le
    · exact h'.le_size k hk

end Grows

/-- An index may be marked on either side of the place where the search starts. -/
theorem grows_occupy {a : Allocator} (h : a.Settled) (index : Nat) :
    Grows a [index] [] (a.occupy index) where
  settled := settled_occupy h index
  next_le := Nat.le_refl _
  mem_occupied k := by
    rw [occupy, Std.HashSet.mem_insert, beq_iff_eq]
    simp only [List.mem_singleton, List.not_mem_nil, or_false]
    tauto
  size_le := Std.HashSet.size_le_size_insert
  nodup := List.nodup_nil
  fresh := by simp
  le_size := by simp

/-- The search stops at the index that it returns, which is occupied from then on. -/
theorem grows_allocate {a : Allocator} (h : a.Settled) :
    Grows a [] [a.allocate.1] a.allocate.2 where
  settled := settled_allocate h
  next_le := (firstFree_cases a.occupied _ a.next).1
  mem_occupied k := by
    rw [mem_allocate]
    simp only [List.mem_singleton, List.not_mem_nil, false_or]
    tauto
  size_le := Std.HashSet.size_le_size_insert
  nodup := List.nodup_singleton _
  fresh := List.forall_mem_singleton.mpr (allocate_isLeast h).1
  le_size := List.forall_mem_singleton.mpr
    ((allocate_le_size h).trans Std.HashSet.size_le_size_insert)

theorem grows_run {a : Allocator} (h : a.Settled) (c : Call) :
    Grows a c.marked?.toList (c.run a).1.toList (c.run a).2 := by
  cases c with
  | occupy index => exact grows_occupy h index
  | allocate => exact grows_allocate h

theorem grows_runAll {a : Allocator} (h : a.Settled) (calls : List Call) :
    Grows a (calls.filterMap Call.marked?) (a.runAll calls).1 (a.runAll calls).2 := by
  induction calls generalizing a with
  | nil => exact .refl h
  | cons c calls ih =>
    have hstep := grows_run h c
    have hmarked : (c :: calls).filterMap Call.marked? =
        c.marked?.toList ++ calls.filterMap Call.marked? := by
      cases c <;> rfl
    rw [hmarked]
    exact hstep.trans (ih hstep.settled)

/-- Each call occupies at most one more index. -/
theorem size_runAll_le (a : Allocator) (calls : List Call) :
    (a.runAll calls).2.occupied.size ≤ a.occupied.size + calls.length := by
  induction calls generalizing a with
  | nil => exact Nat.le_refl _
  | cons c calls ih =>
    have hstep : (c.run a).2.occupied.size ≤ a.occupied.size + 1 := by
      cases c with
      | occupy index => exact Std.HashSet.size_insert_le
      | allocate => exact Std.HashSet.size_insert_le
    have hrest : (a.runAll (c :: calls)).2.occupied.size ≤ _ + calls.length := ih (c.run a).2
    rw [List.length_cons]
    omega

end Allocator

/-- **Allocating without starting over.** An allocator holds the indices that some values denote,
and calls occupy indices and allocate them in any order, fewer than `2 ^ 64` different ones in all.
Each allocation returns an index below `2 ^ 64`, the smallest one that is not denoted by a value,
not marked before and not denoted by an identifier allocated before. The place where the search
starts never moves back, and no identifier is allocated twice. -/
theorem allocation_eq_leastMissing {Value : Type} {index? : Value → Option Nat}
    {values : List Value} {calls : List Allocator.Call}
    (hroom : ((Allocator.ofList (values.filterMap index?)).runAll calls).2.occupied.size <
      2 ^ 64) :
    let start := Allocator.ofList (values.filterMap index?)
    let returned := (start.runAll calls).1
    (∀ before after, calls = before ++ .allocate :: after →
      let given := (start.runAll before).1
      ∃ index later, returned = given ++ index :: later ∧ index < 2 ^ 64 ∧
        index = leastMissing (values.filterMap index? ++
          before.filterMap Allocator.Call.marked? ++
          (given.map toString).filterMap indexOfText?)) ∧
    (∀ before after, calls = before ++ after →
      (start.runAll before).2.next ≤ (start.runAll calls).2.next) ∧
    (returned.map toString).Nodup := by
  intro start returned
  have hstart : start.Settled := Allocator.settled_ofList _
  have hgrows := Allocator.grows_runAll hstart calls
  have hlt : ∀ k ∈ returned, k < 2 ^ 64 := fun k hk => (hgrows.le_size k hk).trans_lt hroom
  refine ⟨fun before after hcalls => ?_, fun before after hcalls => ?_, ?_⟩
  · intro given
    have hbefore := Allocator.grows_runAll hstart before
    have hreturned : returned = given ++
        (start.runAll before).2.allocate.1 ::
          ((start.runAll before).2.allocate.2.runAll after).1 := by
      simp only [returned, hcalls, Allocator.runAll_append]
      rfl
    -- Only indices below `2 ^ 64` are read back from their texts.
    have hgiven : (given.map toString).filterMap indexOfText? = given :=
      filterMap_indexOfText?_toString fun k hk => hlt k (hreturned ▸ List.mem_append_left _ hk)
    refine ⟨_, _, hreturned, hlt _ (by simp [hreturned]), ?_⟩
    rw [hgiven]
    apply Allocator.allocate_eq_leastMissing hbefore.settled
    intro k
    rw [hbefore.mem_occupied, Allocator.mem_ofList, List.mem_append, List.mem_append, or_assoc]
  · rw [hcalls, Allocator.runAll_append]
    have hbefore := Allocator.grows_runAll hstart before
    exact (Allocator.grows_runAll hbefore.settled after).next_le
  · exact hgrows.nodup.map fun _ _ => toString_nat_inj.mp

/-- After the first allocation an index above the place where the search starts is marked, and one
below it that is occupied already. -/
theorem allocation_of_marked_indices :
    let values : List RawId := [.text "3", .number 0.0, .text " 7 ", .text "one"]
    let calls : List Allocator.Call := [.allocate, .occupy 2, .occupy 0, .allocate]
    let run := (Allocator.ofList (values.filterMap RawId.index?)).runAll calls
    run.2.occupied.size < 2 ^ 64 ∧ run.1 = [1, 4] ∧ (run.1.map toString).Nodup := by
  intro values calls run
  have hvalues : values.filterMap RawId.index? = [3, 0, 7] := by decide +kernel
  have hroom : run.2.occupied.size < 2 ^ 64 := by
    have hstart : (Allocator.ofList (values.filterMap RawId.index?)).occupied.size ≤ 3 := by
      rw [hvalues]
      exact Std.HashSet.size_ofList_le
    have hrun : run.2.occupied.size ≤ _ + calls.length := Allocator.size_runAll_le _ calls
    have hlength : calls.length = 4 := rfl
    omega
  obtain ⟨hallocate, -, hnodup⟩ := allocation_eq_leastMissing hroom
  obtain ⟨first, _, hfirst, -, hleast⟩ := hallocate [] _ rfl
  obtain ⟨second, _, hsecond, -, hleast'⟩ := hallocate [.allocate, .occupy 2, .occupy 0] [] rfl
  obtain ⟨x, y, hrun, hgiven⟩ : ∃ x y, run.1 = [x, y] ∧
      ((Allocator.ofList (values.filterMap RawId.index?)).runAll
        [.allocate, .occupy 2, .occupy 0]).1 = [x] := ⟨_, _, rfl, rfl⟩
  have hx : x = 1 := by
    obtain ⟨rfl, -⟩ := List.cons.inj (hrun.symm.trans hfirst)
    rw [hleast, hvalues, leastMissing_eq_find?]
    rfl
  have hy : y = 4 := by
    have hread : ([1].map toString).filterMap indexOfText? = [1] :=
      filterMap_indexOfText?_toString (by decide)
    have hmarked : [.allocate, .occupy 2, .occupy 0].filterMap Allocator.Call.marked? =
        [2, 0] := rfl
    rw [hgiven] at hsecond hleast'
    obtain ⟨-, htail⟩ := List.cons.inj (hrun.symm.trans hsecond)
    obtain ⟨rfl, -⟩ := List.cons.inj htail
    rw [hleast', hvalues, hx, hread, hmarked, leastMissing_eq_find?]
    decide
  exact ⟨hroom, by rw [hrun, hx, hy], hnodup⟩

end GeoDrafts
