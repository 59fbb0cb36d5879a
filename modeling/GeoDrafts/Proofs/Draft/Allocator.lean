import GeoDrafts.Draft.Allocator
import Mathlib.Data.List.Perm.Subperm
import Mathlib.Data.List.Sort
import Mathlib.Order.Bounds.Basic

/-!
The smallest free index. A scan of the sorted indices and the search of an allocator both find the
least number that is not occupied; the search needs all numbers below its start to be occupied,
and keeps them so.
-/

namespace GeoDrafts

/-! ## Repetitions -/

theorem eraseReps_loop_eq (i : Nat) (l kept : List Nat) :
    List.eraseRepsBy.loop (· == ·) i l kept = kept.reverse ++ (i :: l).eraseReps := by
  unfold List.eraseReps List.eraseRepsBy
  induction l generalizing i kept with
  | nil => exact List.reverse_cons
  | cons j l ih =>
    simp only [List.eraseRepsBy.loop]
    cases i == j with
    | true => exact ih i kept
    | false =>
      rw [ih j (i :: kept), ih j [i], List.reverse_cons, List.append_assoc]
      rfl

@[simp]
theorem eraseReps_nil : ([] : List Nat).eraseReps = [] := rfl

@[simp]
theorem eraseReps_singleton (i : Nat) : [i].eraseReps = [i] := rfl

/-- Of two equal neighbours one is kept. -/
@[simp]
theorem eraseReps_cons_cons (i j : Nat) (l : List Nat) :
    (i :: j :: l).eraseReps = if i = j then (j :: l).eraseReps else i :: (j :: l).eraseReps := by
  change List.eraseRepsBy.loop (· == ·) i (j :: l) [] = _
  rw [List.eraseRepsBy.loop]
  by_cases hij : i = j
  · subst hij
    rw [if_pos rfl, beq_self_eq_true]
    rfl
  · rw [if_neg hij, beq_false_of_ne hij]
    exact eraseReps_loop_eq j l [i]

theorem mem_eraseReps {l : List Nat} {k : Nat} : k ∈ l.eraseReps ↔ k ∈ l := by
  induction l with
  | nil => rfl
  | cons i l ih =>
    cases l with
    | nil => rfl
    | cons j l =>
      rw [eraseReps_cons_cons]
      split
      · subst i
        rw [ih, List.mem_cons (b := j) (l := j :: l), or_iff_right_of_imp]
        rintro rfl
        exact List.mem_cons_self
      · rw [List.mem_cons, ih, ← List.mem_cons]

/-- Without repetitions, an ascending list rises at each step. -/
theorem pairwise_lt_eraseReps {l : List Nat} (hl : l.Pairwise (· ≤ ·)) :
    l.eraseReps.Pairwise (· < ·) := by
  induction l with
  | nil => exact .nil
  | cons i l ih =>
    obtain ⟨hi, hrest⟩ := List.pairwise_cons.mp hl
    cases l with
    | nil => exact List.pairwise_singleton _ _
    | cons j l =>
      rw [eraseReps_cons_cons]
      split
      · exact ih hrest
      · rename_i hij
        refine List.pairwise_cons.mpr ⟨fun k hk => ?_, ih hrest⟩
        have hlt : i < j := lt_of_le_of_ne (hi j List.mem_cons_self) hij
        rcases List.mem_cons.mp (mem_eraseReps.mp hk) with rfl | hk
        · exact hlt
        · exact hlt.trans_le ((List.pairwise_cons.mp hrest).1 k hk)

/-- A count along a rising list stops at the first number that is not there. -/
theorem leastGap_isLeast {l : List Nat} (hl : l.Pairwise (· < ·)) {n : Nat} (hn : ∀ i ∈ l, n ≤ i) :
    IsLeast {k | n ≤ k ∧ k ∉ l} (leastGap n l) := by
  induction l generalizing n with
  | nil => exact ⟨⟨Nat.le_refl n, List.not_mem_nil⟩, fun k hk => hk.1⟩
  | cons i rest ih =>
    obtain ⟨hi, hrest⟩ := List.pairwise_cons.mp hl
    unfold leastGap
    split
    · subst i
      obtain ⟨⟨hle, hout⟩, hmin⟩ := ih hrest (n := n + 1) hi
      refine ⟨⟨by omega, List.not_mem_cons_of_ne_of_not_mem (by omega) hout⟩, ?_⟩
      rintro k ⟨hk, hm⟩
      obtain ⟨hne, hm⟩ := List.ne_and_not_mem_of_not_mem_cons hm
      exact hmin ⟨by omega, hm⟩
    · -- Every number in the list is larger than `n`.
      have hlt : n < i := by have := hn i List.mem_cons_self; omega
      refine ⟨⟨Nat.le_refl n, List.not_mem_cons_of_ne_of_not_mem hlt.ne fun hm => ?_⟩,
        fun k hk => hk.1⟩
      exact absurd (hi n hm) hlt.le.not_gt

/-- The scan finds the least number that is missing. -/
theorem leastMissing_isLeast (l : List Nat) : IsLeast {k | k ∉ l} (leastMissing l) := by
  have hrises := pairwise_lt_eraseReps (List.pairwise_mergeSort' (· ≤ ·) l)
  obtain ⟨⟨-, hout⟩, hmin⟩ := leastGap_isLeast hrises (n := 0) fun i _ => Nat.zero_le i
  have hmem : ∀ k, k ∈ (l.mergeSort (· ≤ ·)).eraseReps ↔ k ∈ l :=
    fun k => mem_eraseReps.trans List.mem_mergeSort
  exact ⟨fun hm => hout ((hmem _).mpr hm),
    fun k hk => hmin ⟨Nat.zero_le k, fun hm => hk ((hmem k).mp hm)⟩⟩

theorem leastMissing_notMem (l : List Nat) : leastMissing l ∉ l := (leastMissing_isLeast l).1

theorem mem_of_lt_leastMissing {l : List Nat} {k : Nat} (h : k < leastMissing l) : k ∈ l := by
  by_contra hk
  exact absurd ((leastMissing_isLeast l).2 hk) (Nat.not_le.mpr h)

/-- The least missing number depends only on which numbers are there. -/
theorem leastMissing_congr {l l' : List Nat} (h : ∀ i, i ∈ l ↔ i ∈ l') :
    leastMissing l = leastMissing l' := by
  have hset : {k | k ∉ l} = {k | k ∉ l'} := by
    ext k
    exact not_congr (h k)
  exact (leastMissing_isLeast l).unique (hset ▸ leastMissing_isLeast l')

/-- As many numbers as a list has cannot be all in it and one more. -/
theorem le_length_of_forall_mem {l : List Nat} {n m : Nat}
    (h : ∀ k, n ≤ k → k < n + m → k ∈ l) : m ≤ l.length := by
  have hsub : List.range' n m ⊆ l := by
    intro k hk
    rw [List.mem_range'_1] at hk
    exact h k hk.1 hk.2
  simpa using (List.subperm_of_subset List.nodup_range' hsub).length_le

theorem leastMissing_le_length (l : List Nat) : leastMissing l ≤ l.length :=
  le_length_of_forall_mem (n := 0) fun _ _ hk => mem_of_lt_leastMissing (by omega)

/-- A search in order finds it too, and needs no sorted list. -/
theorem leastMissing_eq_find? (l : List Nat) :
    leastMissing l = ((List.range (l.length + 1)).find? (· ∉ l)).getD 0 := by
  have hfind : (List.range (l.length + 1)).find? (· ∉ l) = some (leastMissing l) := by
    rw [List.find?_range_eq_some]
    refine ⟨decide_eq_true (leastMissing_notMem l),
      List.mem_range.mpr (Nat.lt_succ_of_le (leastMissing_le_length l)), fun k hk => ?_⟩
    simpa using mem_of_lt_leastMissing hk
  rw [hfind]
  rfl

theorem le_size_of_forall_mem {occupied : Std.HashSet Nat} {n m : Nat}
    (h : ∀ k, n ≤ k → k < n + m → k ∈ occupied) : m ≤ occupied.size := by
  rw [← Std.HashSet.length_toList]
  exact le_length_of_forall_mem fun k h₁ h₂ => Std.HashSet.mem_toList.mpr (h k h₁ h₂)

namespace Allocator

/-- All numbers below the place where the search starts are occupied. -/
def Settled (a : Allocator) : Prop := ∀ k, k < a.next → k ∈ a.occupied

theorem firstFree_cases (occupied : Std.HashSet Nat) (fuel n : Nat) :
    n ≤ firstFree occupied fuel n ∧
      (∀ k, n ≤ k → k < firstFree occupied fuel n → k ∈ occupied) ∧
      (firstFree occupied fuel n ∉ occupied ∨ firstFree occupied fuel n = n + fuel) := by
  induction fuel generalizing n with
  | zero => exact ⟨Nat.le_refl n, fun k h₁ h₂ => absurd h₂ (Nat.not_lt.mpr h₁), .inr rfl⟩
  | succ fuel ih =>
    unfold firstFree
    split
    · rename_i hn
      obtain ⟨hle, hocc, hend⟩ := ih (n + 1)
      refine ⟨by omega, ?_, ?_⟩
      · intro k h₁ h₂
        rcases Nat.eq_or_lt_of_le h₁ with rfl | h₁
        · exact hn
        · exact hocc k h₁ h₂
      · rcases hend with h | h
        · exact .inl h
        · exact .inr (by omega)
    · rename_i hn
      exact ⟨Nat.le_refl n, fun k h₁ h₂ => absurd h₂ (Nat.not_lt.mpr h₁), .inl hn⟩

/-- The search ends: one more number than are occupied cannot all be. -/
theorem firstFree_isLeast (occupied : Std.HashSet Nat) (n : Nat) :
    IsLeast {k | n ≤ k ∧ k ∉ occupied} (firstFree occupied (occupied.size + 1) n) := by
  obtain ⟨hle, hocc, hend⟩ := firstFree_cases occupied (occupied.size + 1) n
  have hfree : firstFree occupied (occupied.size + 1) n ∉ occupied := by
    rcases hend with h | h
    · exact h
    · have hall : ∀ k, n ≤ k → k < n + (occupied.size + 1) → k ∈ occupied :=
        fun k h₁ h₂ => hocc k h₁ (by omega)
      have hsize := le_size_of_forall_mem hall
      omega
  exact ⟨⟨hle, hfree⟩, fun k hk => Nat.not_lt.mp fun hlt => hk.2 (hocc k hk.1 hlt)⟩

theorem mem_ofList {indices : List Nat} {k : Nat} :
    k ∈ (ofList indices).occupied ↔ k ∈ indices := by
  rw [ofList, Std.HashSet.mem_ofList, List.contains_iff_mem]

theorem settled_ofList (indices : List Nat) : (ofList indices).Settled :=
  fun _ hk => absurd hk (Nat.not_lt_zero _)

theorem settled_occupy {a : Allocator} (h : a.Settled) (index : Nat) : (a.occupy index).Settled :=
  fun k hk => Std.HashSet.mem_insert.mpr (.inr (h k hk))

/-- An allocator returns the least number that is not occupied. -/
theorem allocate_isLeast {a : Allocator} (h : a.Settled) :
    IsLeast {k | k ∉ a.occupied} a.allocate.1 := by
  obtain ⟨⟨_, hfree⟩, hmin⟩ := firstFree_isLeast a.occupied a.next
  refine ⟨hfree, fun k hk => hmin ⟨?_, hk⟩⟩
  exact Nat.not_lt.mp fun hlt => hk (h k hlt)

/-- The search finds what a scan of all that is occupied finds. -/
theorem allocate_eq_leastMissing {a : Allocator} (h : a.Settled) {l : List Nat}
    (hocc : ∀ k, k ∈ a.occupied ↔ k ∈ l) : a.allocate.1 = leastMissing l := by
  have hset : {k | k ∉ a.occupied} = {k | k ∉ l} := by
    ext k
    exact not_congr (hocc k)
  exact (hset ▸ allocate_isLeast h).unique (leastMissing_isLeast l)

/-- All numbers below the smallest free one are occupied, so there are at least as many. -/
theorem allocate_le_size {a : Allocator} (h : a.Settled) : a.allocate.1 ≤ a.occupied.size := by
  refine le_size_of_forall_mem (n := 0) fun k _ hk => ?_
  by_contra hout
  exact absurd ((allocate_isLeast h).2 hout) (Nat.not_le.mpr (by omega))

theorem mem_allocate {a : Allocator} {k : Nat} :
    k ∈ a.allocate.2.occupied ↔ k = a.allocate.1 ∨ k ∈ a.occupied := by
  rw [allocate, Std.HashSet.mem_insert, beq_iff_eq, eq_comm]

theorem settled_allocate {a : Allocator} (h : a.Settled) : a.allocate.2.Settled := by
  intro k hk
  rw [mem_allocate]
  by_contra hout
  exact absurd ((allocate_isLeast h).2 fun hm => hout (.inr hm)) (Nat.not_le.mpr hk)

end Allocator

end GeoDrafts
