import GeoDrafts.Proofs.Draft.Allocation
import Mathlib.Data.Finset.Card

/-!
Free indices of 64 bits. As many values as there are leave one of the first numbers free, whatever
they denote; so neither a scan nor the search of an allocator counts further than the number of
occupied indices, and a cursor of 64 bits does not wrap around.
-/

namespace GeoDrafts

variable {α : Type} [TaskIndex α]

/-! ## The scan -/

theorem mem_filterMap_index? {values : List α} {k : Nat} :
    k ∈ values.filterMap TaskIndex.index? ↔ ∃ v ∈ values, TaskIndex.index? v = some k :=
  List.mem_filterMap

/-- Values that denote the same indices leave the same index free. -/
theorem leastMissingText_congr {values values' : List α}
    (h : ∀ k, (∃ v ∈ values, TaskIndex.index? v = some k) ↔
      ∃ v ∈ values', TaskIndex.index? v = some k) :
    leastMissingText values = leastMissingText values' := by
  have hmem : ∀ k, k ∈ values.filterMap TaskIndex.index? ↔
      k ∈ values'.filterMap TaskIndex.index? := by
    intro k
    rw [mem_filterMap_index?, mem_filterMap_index?, h]
  exact congrArg toString (leastMissing_congr hmem)

/-- **The smallest free index.** Values that are read as indices leave one free that has 64 bits:
none of them denotes it, and each smaller one is denoted by some. The order of the values,
repetitions and values that denote no index do not matter. -/
theorem leastMissingText_isLeast {values : List α} (h : values.length < 2 ^ 64) :
    ∃ n, leastMissingText values = toString n ∧ n < 2 ^ 64 ∧
      (∀ v ∈ values, TaskIndex.index? v ≠ some n) ∧
      (∀ k < n, ∃ v ∈ values, TaskIndex.index? v = some k) ∧
      ∀ values' : List α, (∀ v ∈ values, v ∈ values') →
        (∀ v ∈ values', v ∈ values ∨ TaskIndex.index? v = none) →
        leastMissingText values' = leastMissingText values := by
  have hle := leastMissing_le_length (values.filterMap TaskIndex.index?)
  have hlength := List.length_filterMap_le TaskIndex.index? values
  refine ⟨_, rfl, (hle.trans hlength).trans_lt h, fun v hv hindex => ?_, fun k hk => ?_,
    fun values' hkept hmore => leastMissingText_congr fun k => ⟨?_, ?_⟩⟩
  · exact leastMissing_notMem _ (mem_filterMap_index?.mpr ⟨v, hv, hindex⟩)
  · exact mem_filterMap_index?.mp (mem_of_lt_leastMissing hk)
  · rintro ⟨v, hv, hindex⟩
    rcases hmore v hv with hv | hnone
    · exact ⟨v, hv, hindex⟩
    · rw [hnone] at hindex
      cases hindex
  · rintro ⟨v, hv, hindex⟩
    exact ⟨v, hkept v hv, hindex⟩

/-- Ten, five and zero are occupied, before and after the values are moved and repeated. -/
theorem leastMissingText_of_mixed :
    let values : List (Option RawId) :=
      [some (.number 10), some (.text " 5 "), some (.text "one"), none, some (.number 0)]
    let values' : List (Option RawId) :=
      [some (.number 0), some (.text ""), some (.number 0), some (.text "one"),
        some (.number (-1)), some (.number 10), none, some (.text " 5 "), some (.text " 5 ")]
    values.length < 2 ^ 64 ∧ leastMissingText values = "1" ∧ leastMissingText values' = "1" := by
  intro values values'
  have hlength : values.length < 2 ^ 64 := by decide
  obtain ⟨n, htext, -, hfree, hoccupied, hsame⟩ := leastMissingText_isLeast hlength
  have hone : ¬ ∃ v ∈ values, TaskIndex.index? v = some 1 := by decide +kernel
  have hle : n ≤ 1 := Nat.not_lt.mp fun hlt => hone (hoccupied 1 hlt)
  have hpos : n ≠ 0 := by
    rintro rfl
    exact hfree (some (.number 0)) (by simp [values]) (by decide +kernel)
  obtain rfl : n = 1 := by omega
  refine ⟨hlength, htext, ?_⟩
  rw [hsame values' (by decide +kernel) (by decide +kernel), htext]
  rfl

/-! ## The search -/

namespace Allocator

/-- A search whose cursor has 64 bits, with the number of its steps and the index where it stops.
It goes on from an occupied index to the next one, which after the last one is zero. -/
inductive Searches (occupied : Std.HashSet Nat) : UInt64 → Nat → UInt64 → Prop
  | stop {cursor : UInt64} (h : cursor.toNat ∉ occupied) : Searches occupied cursor 0 cursor
  | next {cursor last : UInt64} {steps : Nat} (h : cursor.toNat ∈ occupied)
      (rest : Searches occupied (cursor + 1) steps last) : Searches occupied cursor (steps + 1) last

/-- As far as indices of 64 bits go, the cursor passes the occupied ones. -/
theorem searches_of_forall {occupied : Std.HashSet Nat} {n steps : Nat} (hlt : n + steps < 2 ^ 64)
    (hocc : ∀ k, n ≤ k → k < n + steps → k ∈ occupied) (hfree : n + steps ∉ occupied) :
    Searches occupied (UInt64.ofNat n) steps (UInt64.ofNat (n + steps)) := by
  have hcursor : (UInt64.ofNat n).toNat = n :=
    UInt64.toNat_ofNat_of_lt' (by omega : n < 2 ^ 64)
  induction steps generalizing n with
  | zero => exact .stop (by rwa [hcursor])
  | succ steps ih =>
    have hsum : n + (steps + 1) = n + 1 + steps := by omega
    have hnext : UInt64.ofNat n + 1 = UInt64.ofNat (n + 1) := (UInt64.ofNat_add n 1).symm
    rw [hsum] at hlt hocc hfree ⊢
    have hrest := ih hlt (fun k hk => hocc k (by omega)) hfree
      (UInt64.toNat_ofNat_of_lt' (by omega : n + 1 < 2 ^ 64))
    exact .next (by rw [hcursor]; exact hocc n le_rfl (by omega)) (hnext ▸ hrest)

theorem size_eq_card {occupied : Std.HashSet Nat} {s : Finset Nat}
    (h : ∀ k, k ∈ occupied ↔ k ∈ s) : occupied.size = s.card := by
  have hs : occupied.toList.toFinset = s := by
    ext k
    rw [List.mem_toFinset, Std.HashSet.mem_toList, h]
  have hnodup : occupied.toList.Nodup :=
    Std.HashSet.distinct_toList.imp fun hne => by simpa using hne
  rw [← hs, List.toFinset_card_of_nodup hnodup, Std.HashSet.length_toList]

theorem settled_runAll (indices : List Nat) (calls : List Call) :
    ((ofList indices).runAll calls).2.Settled :=
  (grows_runAll (settled_ofList indices) calls).settled

/-- The indices that are occupied after some calls: values denote them, or calls mark them or
return them. -/
def occupiedAfter (values : List α) (calls : List Call) : Finset Nat :=
  (values.filterMap TaskIndex.index? ++ calls.filterMap Call.marked? ++
    ((ofList (values.filterMap TaskIndex.index?)).runAll calls).1).toFinset

theorem mem_occupiedAfter {values : List α} {calls : List Call} {k : Nat} :
    k ∈ ((ofList (values.filterMap TaskIndex.index?)).runAll calls).2.occupied ↔
      k ∈ occupiedAfter values calls := by
  have hgrows := grows_runAll (settled_ofList (values.filterMap TaskIndex.index?)) calls
  rw [hgrows.mem_occupied, mem_ofList, occupiedAfter, List.mem_toFinset, List.mem_append,
    List.mem_append, or_assoc]

/-- **The search ends.** Whatever the calls before, with fewer than `2 ^ 64 - 1` indices occupied
the search goes on from where the last one stopped and ends without wrapping around. It stops at
the index that is allocated, which is not above the number of occupied indices. -/
theorem search_ends {values : List α} {calls : List Call}
    (hroom : (occupiedAfter values calls).card < 2 ^ 64 - 1) :
    let a := ((ofList (values.filterMap TaskIndex.index?)).runAll calls).2
    ∃ steps last, Searches a.occupied (UInt64.ofNat a.next) steps last ∧
      a.next + steps = last.toNat ∧ a.allocate.1 = last.toNat ∧
      a.allocate.1 ≤ (occupiedAfter values calls).card := by
  intro a
  have hsettled : a.Settled := settled_runAll _ calls
  have hsize : a.occupied.size = (occupiedAfter values calls).card :=
    size_eq_card fun k => mem_occupiedAfter
  have hle : a.allocate.1 ≤ a.occupied.size := allocate_le_size hsettled
  have hfree : a.allocate.1 ∉ a.occupied := (allocate_isLeast hsettled).1
  obtain ⟨hstart, hocc, -⟩ := firstFree_cases a.occupied (a.occupied.size + 1) a.next
  obtain ⟨steps, hsteps⟩ := Nat.exists_eq_add_of_le hstart
  change a.allocate.1 = a.next + steps at hsteps
  have hlt : a.next + steps < 2 ^ 64 := by omega
  have hlast : (UInt64.ofNat (a.next + steps)).toNat = a.next + steps :=
    UInt64.toNat_ofNat_of_lt' hlt
  refine ⟨steps, UInt64.ofNat (a.next + steps), searches_of_forall hlt ?_ (hsteps ▸ hfree),
    hlast.symm, hsteps.trans hlast.symm, hle.trans hsize.le⟩
  intro k hk hlt
  exact hocc k hk (hlt.trans_eq hsteps.symm)

/-- One is denoted by a value, zero is allocated and the largest index is marked. The next search
starts at zero again and stops at two. -/
theorem search_ends_at_two :
    let values : List RawId := [.text "1"]
    let calls : List Call := [.allocate, .occupy (2 ^ 64 - 1)]
    let a := ((ofList (values.filterMap TaskIndex.index?)).runAll calls).2
    (occupiedAfter values calls).card < 2 ^ 64 - 1 ∧ Searches a.occupied 0 2 2 ∧
      a.allocate.1 = 2 := by
  intro values calls a
  have hvalues : values.filterMap TaskIndex.index? = [1] := by decide +kernel
  have hroom : (occupiedAfter values calls).card < 2 ^ 64 - 1 := by
    refine (List.toFinset_card_le _).trans_lt ?_
    rw [hvalues]
    exact (by decide : 3 < 2 ^ 64 - 1)
  have hfirst : a.next = 0 := by
    change (ofList (values.filterMap TaskIndex.index?)).allocate.1 = 0
    rw [allocate_eq_leastMissing (settled_ofList _) fun k => mem_ofList, hvalues,
      leastMissing_eq_find?]
    decide
  have hoccupied : ∀ k, k ∈ a.occupied ↔ k ∈ [1, 2 ^ 64 - 1, 0] := by
    have hreturned : ((ofList (values.filterMap TaskIndex.index?)).runAll calls).1 = [a.next] :=
      rfl
    intro k
    rw [mem_occupiedAfter, occupiedAfter, List.mem_toFinset, hreturned, hfirst, hvalues]
    rfl
  obtain ⟨steps, last, hsearches, hsteps, hlast, -⟩ := search_ends hroom
  have htwo : a.allocate.1 = 2 := by
    rw [allocate_eq_leastMissing (settled_runAll _ calls) hoccupied, leastMissing_eq_find?]
    decide
  have hlast' : last = 2 := UInt64.toNat_inj.mp (hlast.symm.trans htwo)
  obtain rfl : steps = 2 := by
    rw [hfirst, hlast', Nat.zero_add] at hsteps
    exact hsteps
  rw [hfirst, hlast'] at hsearches
  exact ⟨hroom, hsearches, htwo⟩

end Allocator

end GeoDrafts
