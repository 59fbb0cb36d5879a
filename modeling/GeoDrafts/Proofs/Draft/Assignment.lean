import GeoDrafts.Draft.Store
import GeoDrafts.Proofs.Draft.Allocator
import GeoDrafts.Proofs.Draft.Index
import Mathlib.Data.Nat.Nth

/-!
The indices of a batch. Two sets and a search that goes on where it ended give each draft what a
fresh scan for it would: the first draft that asks for an index out of use keeps it, and all
others get the smallest numbers that are neither in use nor asked for, one after another.
-/

namespace GeoDrafts

def NewDraft.index? (d : NewDraft) : Option Nat := d.id.bind RawId.index?

/-- The index that the draft at a place of a batch keeps: the one it asks for, if it is not in use
and no draft before asks for it. -/
def keptIndex? (used : List Nat) (requests : List (Option Nat)) (place : Nat) : Option Nat :=
  (requests[place]?.getD none).filter fun i => i ∉ used ∧ some i ∉ requests.take place

/-- The indices that a batch gets by a scan for each draft. `reserved` are the indices that the
batch asks for, and `given` those that drafts before got. -/
def freshScan (used reserved : List Nat) : List Nat → List (Option Nat) → List Nat
  | _, [] => []
  | given, request :: rest =>
    let i := (request.filter fun i => i ∉ used ++ given).getD
      (leastMissing (used ++ reserved ++ given))
    i :: freshScan used reserved (given ++ [i]) rest

/-- The sets and the allocator compute fresh scans, as long as they hold what is taken. -/
theorem assign_eq_freshScan {used reserved : List Nat} {requests : List (Option Nat)}
    (hreserved : ∀ i, some i ∈ requests → i ∈ reserved) :
    ∀ {given : List Nat} {taken : Std.HashSet Nat} {free : Allocator},
      (∀ i, i ∈ taken ↔ i ∈ used ++ given) → free.Settled →
      (∀ i, i ∈ free.occupied ↔ i ∈ used ++ reserved ++ given) →
      DraftStore.assign taken free requests = freshScan used reserved given requests := by
  induction requests with
  | nil => intros; rfl
  | cons request rest ih =>
    intro given taken free htaken hsettled hocc
    have hrest : ∀ i, some i ∈ rest → i ∈ reserved :=
      fun i hi => hreserved i (List.mem_cons_of_mem _ hi)
    have hfilter : (request.filter fun i => !taken.contains i) =
        request.filter fun i => i ∉ used ++ given := by
      congr 1
      funext i
      by_cases hi : i ∈ used ++ given
      · simp [hi, (htaken i).mpr hi]
      · have hout : i ∉ taken := fun h => hi ((htaken i).mp h)
        simp [hi, hout]
    unfold DraftStore.assign freshScan
    rw [hfilter]
    have hinsert : ∀ j i, i ∈ taken.insert j ↔ i ∈ used ++ (given ++ [j]) := by
      intro j i
      rw [Std.HashSet.mem_insert, beq_iff_eq, htaken]
      simp only [List.mem_append, List.mem_singleton]
      tauto
    cases hkeep : request.filter fun i => i ∉ used ++ given with
    | some i =>
      have hi : i ∈ reserved := by
        have hr : request = some i := (Option.filter_eq_some_iff.mp hkeep).1
        exact hreserved i (hr ▸ List.mem_cons_self)
      simp only [Option.getD_some]
      congr 1
      apply ih hrest (hinsert i) hsettled
      intro j
      rw [hocc, ← List.append_assoc, List.mem_append (s := used ++ reserved ++ given)]
      constructor
      · exact .inl
      · rintro (hj | hj)
        · exact hj
        · rw [List.mem_singleton.mp hj]
          simp [hi]
    | none =>
      have hleast : free.allocate.1 = leastMissing (used ++ reserved ++ given) :=
        Allocator.allocate_eq_leastMissing hsettled hocc
      simp only [Option.getD_none, ← hleast]
      congr 1
      apply ih hrest (hinsert _) (Allocator.settled_allocate hsettled)
      intro j
      rw [Allocator.mem_allocate, hocc, ← List.append_assoc, List.mem_append (s := _ ++ given),
        List.mem_singleton, or_comm]

theorem length_freshScan (used reserved given : List Nat) (requests : List (Option Nat)) :
    (freshScan used reserved given requests).length = requests.length := by
  induction requests generalizing given with
  | nil => rfl
  | cons request rest ih => simp [freshScan, ih]

/-- What a draft gets depends on what those before it got. -/
theorem freshScan_getElem? (used reserved given : List Nat) (requests : List (Option Nat))
    (k : Nat) :
    (freshScan used reserved given requests)[k]? = requests[k]?.map fun request =>
      let before := given ++ (freshScan used reserved given requests).take k
      (request.filter fun i => i ∉ used ++ before).getD
        (leastMissing (used ++ reserved ++ before)) := by
  induction requests generalizing given k with
  | nil => rfl
  | cons request rest ih =>
    cases k with
    | zero => simp [freshScan]
    | succ k =>
      rw [freshScan]
      simp only [List.getElem?_cons_succ, List.take_succ_cons]
      rw [ih]
      simp only [List.append_assoc, List.singleton_append]

/-- The indices that a batch of drafts with the given requests gets. -/
def indicesFor (used : List Nat) (requests : List (Option Nat)) : List Nat :=
  freshScan used (requests.filterMap id) [] requests

theorem DraftStore.assignAll_eq_indicesFor (s : DraftStore) (batch : List NewDraft) :
    s.assignAll batch = indicesFor s.indices (batch.map NewDraft.index?) := by
  apply assign_eq_freshScan
  · intro i hi
    exact List.mem_filterMap.mpr ⟨some i, hi, rfl⟩
  · simp [Std.HashSet.mem_ofList]
  · exact Allocator.settled_ofList _
  · intro i
    rw [Allocator.mem_ofList, List.append_nil]
    rfl

@[simp]
theorem length_indicesFor (used : List Nat) (requests : List (Option Nat)) :
    (indicesFor used requests).length = requests.length :=
  length_freshScan used _ [] requests

private theorem mem_take_iff {α : Type} {a : α} {l : List α} {k : Nat} :
    a ∈ l.take k ↔ ∃ j, j < k ∧ l[j]? = some a := by
  rw [List.mem_iff_getElem?]
  constructor
  · rintro ⟨j, hj⟩
    rw [List.getElem?_take] at hj
    split at hj
    · exact ⟨j, by assumption, hj⟩
    · cases hj
  · rintro ⟨j, hjk, hj⟩
    exact ⟨j, by rw [List.getElem?_take, if_pos hjk, hj]⟩

section
variable {used : List Nat} {requests : List (Option Nat)}

theorem indicesFor_getElem? (k : Nat) :
    (indicesFor used requests)[k]? = requests[k]?.map fun request =>
      let before := (indicesFor used requests).take k
      (request.filter fun i => i ∉ used ++ before).getD
        (leastMissing (used ++ requests.filterMap id ++ before)) :=
  freshScan_getElem? used (requests.filterMap id) [] requests k

private theorem indicesFor_cases {k i : Nat} (h : (indicesFor used requests)[k]? = some i) :
    (requests[k]? = some (some i) ∧ i ∉ used ++ (indicesFor used requests).take k) ∨
      i = leastMissing (used ++ requests.filterMap id ++ (indicesFor used requests).take k) := by
  rw [indicesFor_getElem?] at h
  obtain ⟨request, hk, hget⟩ := Option.map_eq_some_iff.mp h
  cases hkeep : request.filter fun i => i ∉ used ++ (indicesFor used requests).take k with
  | some j =>
    simp only [hkeep, Option.getD_some] at hget
    subst i
    obtain ⟨rfl, hout⟩ := Option.filter_eq_some_iff.mp hkeep
    exact .inl ⟨hk, of_decide_eq_true hout⟩
  | none =>
    simp only [hkeep, Option.getD_none] at hget
    exact .inr hget.symm

/-- No draft gets an index that is in use or that a draft before it got. -/
theorem indicesFor_fresh {k i : Nat} (h : (indicesFor used requests)[k]? = some i) :
    i ∉ used ++ (indicesFor used requests).take k := by
  rcases indicesFor_cases h with ⟨_, hout⟩ | rfl
  · exact hout
  · have hout := leastMissing_notMem
      (used ++ requests.filterMap id ++ (indicesFor used requests).take k)
    simp only [List.mem_append, not_or] at hout ⊢
    exact ⟨hout.1.1, hout.2⟩

theorem notMem_of_mem_indicesFor {i : Nat} (h : i ∈ indicesFor used requests) : i ∉ used := by
  obtain ⟨k, hk⟩ := List.mem_iff_getElem?.mp h
  exact fun hi => indicesFor_fresh hk (List.mem_append_left _ hi)

theorem nodup_indicesFor : (indicesFor used requests).Nodup := by
  rw [List.Nodup, List.pairwise_iff_getElem]
  intro j k hj hk hjk heq
  apply indicesFor_fresh (List.getElem?_eq_getElem hk)
  rw [← heq]
  exact List.mem_append_right _ (mem_take_iff.mpr ⟨j, hjk, List.getElem?_eq_getElem hj⟩)

/-- A draft gets an index that the batch asks for only if it asks for it itself. -/
private theorem request_of_indicesFor {k i : Nat} (h : (indicesFor used requests)[k]? = some i)
    (hi : some i ∈ requests) : requests[k]? = some (some i) := by
  rcases indicesFor_cases h with ⟨hk, _⟩ | rfl
  · exact hk
  · have hmem : _ ∈ requests.filterMap id := List.mem_filterMap.mpr ⟨some _, hi, rfl⟩
    exact absurd (List.mem_append_left _ (List.mem_append_right _ hmem)) (leastMissing_notMem _)

/-- An index out of use has been given as soon as it has been asked for. -/
theorem mem_take_indicesFor {i : Nat} (hused : i ∉ used) (hi : some i ∈ requests) (k : Nat) :
    i ∈ (indicesFor used requests).take k ↔ some i ∈ requests.take k := by
  constructor
  · intro h
    obtain ⟨j, hj, hget⟩ := mem_take_iff.mp h
    exact mem_take_iff.mpr ⟨j, hj, request_of_indicesFor hget hi⟩
  · intro h
    obtain ⟨j, hj, hget⟩ := mem_take_iff.mp h
    by_cases hbefore : i ∈ (indicesFor used requests).take j
    · obtain ⟨l, hl, hgot⟩ := mem_take_iff.mp hbefore
      exact mem_take_iff.mpr ⟨l, by omega, hgot⟩
    · refine mem_take_iff.mpr ⟨j, hj, ?_⟩
      have hfree : i ∉ used ++ (indicesFor used requests).take j := by
        simp only [List.mem_append, not_or]
        exact ⟨hused, hbefore⟩
      rw [indicesFor_getElem?, hget, Option.map_some]
      simp only [Option.filter_some, hfree, not_false_eq_true, decide_true, ↓reduceIte,
        Option.getD_some]

/-- Each draft keeps its index or gets the smallest number that is not in use, not asked for and
not given before. -/
theorem indicesFor_getElem?_kept (k : Nat) :
    (indicesFor used requests)[k]? = requests[k]?.map fun _ =>
      (keptIndex? used requests k).getD
        (leastMissing (used ++ requests.filterMap id ++ (indicesFor used requests).take k)) := by
  rw [indicesFor_getElem?]
  cases hk : requests[k]? with
  | none => rfl
  | some request =>
    simp only [Option.map_some, keptIndex?, hk, Option.getD_some]
    congr 2
    cases request with
    | none => rfl
    | some i =>
      have hi : some i ∈ requests := List.mem_of_getElem? hk
      by_cases hused : i ∈ used
      · simp [Option.filter, hused]
      · simp [Option.filter, hused, mem_take_indicesFor hused hi]

theorem indicesFor_of_kept {k i : Nat} (h : keptIndex? used requests k = some i) :
    (indicesFor used requests)[k]? = some i := by
  cases hk : requests[k]? with
  | none => simp [keptIndex?, hk] at h
  | some request => rw [indicesFor_getElem?_kept, h, hk, Option.map_some, Option.getD_some]

theorem mem_requests_of_kept {k i : Nat} (h : keptIndex? used requests k = some i) :
    some i ∈ requests := by
  cases hk : requests[k]? with
  | none => simp [keptIndex?, hk] at h
  | some request =>
    simp only [keptIndex?, hk, Option.getD_some] at h
    rw [(Option.filter_eq_some_iff.mp h).1] at hk
    exact List.mem_of_getElem? hk

/-- A number that no draft of the batch asks for and that is not in use. -/
def IsFree (used : List Nat) (requests : List (Option Nat)) (n : Nat) : Prop :=
  n ∉ used ∧ some n ∉ requests

/-- The drafts before a place that do not keep an index. -/
def othersBefore (used : List Nat) (requests : List (Option Nat)) (place : Nat) : Nat :=
  (List.range place).countP fun j => (keptIndex? used requests j).isNone

theorem infinite_isFree : {n | IsFree used requests n}.Infinite := by
  have hfinite : {n | n ∈ used ++ requests.filterMap id}.Finite := List.finite_toSet _
  refine hfinite.infinite_compl.mono fun n hn => ?_
  simp only [Set.mem_compl_iff, Set.mem_ofPred_eq, List.mem_append, not_or] at hn
  exact ⟨hn.1, fun hm => hn.2 (List.mem_filterMap.mpr ⟨some n, hm, rfl⟩)⟩

/-- If exactly the first `count` free numbers have been given, the next one is the least number
that is not in use, not asked for and not given. -/
theorem leastMissing_eq_nth {given : List Nat} {count : Nat}
    (hgiven : ∀ n, IsFree used requests n →
      (n ∈ given ↔ ∃ j, j < count ∧ n = Nat.nth (IsFree used requests) j)) :
    leastMissing (used ++ requests.filterMap id ++ given) =
      Nat.nth (IsFree used requests) count := by
  have hfree : ∀ n, n ∉ used ++ requests.filterMap id ++ given ↔
      IsFree used requests n ∧ n ∉ given := by
    intro n
    simp [IsFree, and_assoc]
  apply (leastMissing_isLeast _).unique
  constructor
  · have hp : IsFree used requests (Nat.nth (IsFree used requests) count) :=
      Nat.nth_mem_of_infinite infinite_isFree count
    refine (hfree _).mpr ⟨hp, fun hm => ?_⟩
    obtain ⟨j, hj, heq⟩ := (hgiven _ hp).mp hm
    have := Nat.nth_injective infinite_isFree heq
    omega
  · intro n hn
    classical
    obtain ⟨hp, hout⟩ := (hfree n).mp hn
    rw [← Nat.nth_count hp]
    apply Nat.nth_monotone infinite_isFree
    by_contra hlt
    exact hout ((hgiven n hp).mpr ⟨_, Nat.not_le.mp hlt, (Nat.nth_count hp).symm⟩)

/-- The drafts before a place have got the first free numbers, as many as do not keep an index. -/
theorem mem_take_iff_nth {k : Nat} (hk : k ≤ requests.length) (n : Nat)
    (hn : IsFree used requests n) :
    n ∈ (indicesFor used requests).take k ↔
      ∃ j, j < othersBefore used requests k ∧ n = Nat.nth (IsFree used requests) j := by
  induction k generalizing n with
  | zero => simp [othersBefore]
  | succ k ih =>
    have ih := ih (by omega)
    have hget : (indicesFor used requests)[k]? = some _ := indicesFor_getElem?_kept k |>.trans
      (by rw [List.getElem?_eq_getElem (by omega : k < requests.length), Option.map_some])
    rw [List.take_add_one, hget, Option.toList_some, List.mem_append, List.mem_singleton, ih n hn]
    have hcount : othersBefore used requests (k + 1) = othersBefore used requests k +
        if (keptIndex? used requests k).isNone then 1 else 0 := by
      simp [othersBefore, List.range_succ]
    cases hkept : keptIndex? used requests k with
    | some i =>
      have hne : n ≠ i := by
        rintro rfl
        exact hn.2 (mem_requests_of_kept hkept)
      simp [hcount, hkept, hne]
    | none =>
      simp only [hcount, hkept, Option.isNone_none, if_true, Option.getD_none,
        leastMissing_eq_nth ih]
      constructor
      · rintro (⟨j, hj, rfl⟩ | rfl)
        · exact ⟨j, by omega, rfl⟩
        · exact ⟨_, by omega, rfl⟩
      · rintro ⟨j, hj, rfl⟩
        rcases Nat.lt_succ_iff_lt_or_eq.mp hj with hj | rfl
        · exact .inl ⟨j, hj, rfl⟩
        · exact .inr rfl

/-- A draft that keeps no index gets the next free number. -/
theorem indicesFor_of_other {k : Nat} (hk : k < requests.length)
    (h : keptIndex? used requests k = none) :
    (indicesFor used requests)[k]? =
      some (Nat.nth (IsFree used requests) (othersBefore used requests k)) := by
  rw [indicesFor_getElem?_kept, List.getElem?_eq_getElem hk, h, Option.map_some, Option.getD_none,
    leastMissing_eq_nth (mem_take_iff_nth hk.le)]

/-- Where no draft asks for an index, they get the smallest ones that are not in use, in order. -/
theorem indicesFor_of_no_request (hnone : ∀ request ∈ requests, request = none) {k : Nat}
    (hk : k < requests.length) :
    (indicesFor used requests)[k]? = some (Nat.nth (fun n => n ∉ used) k) := by
  have hkept : ∀ j, keptIndex? used requests j = none := by
    intro j
    cases hkept : keptIndex? used requests j with
    | none => rfl
    | some i => cases hnone _ (mem_requests_of_kept hkept)
  have hfree : IsFree used requests = fun n => n ∉ used := by
    funext n
    have hask : some n ∉ requests := fun hn => by cases hnone _ hn
    rw [IsFree, eq_iff_iff, and_iff_left hask]
  have hbefore : othersBefore used requests k = k := by simp [othersBefore, hkept]
  rw [indicesFor_of_other hk (hkept k), hfree, hbefore]

/-- An index that nobody asks for is smaller than the number of drafts, old and new. -/
theorem lt_of_mem_indicesFor {i : Nat} (h : i ∈ indicesFor used requests)
    (hi : some i ∉ requests) : i < used.length + requests.length := by
  obtain ⟨k, hk⟩ := List.mem_iff_getElem?.mp h
  rcases indicesFor_cases hk with ⟨hrequest, _⟩ | hleast
  · exact absurd (List.mem_of_getElem? hrequest) hi
  · have hall : ∀ n, 0 ≤ n → n < 0 + (i + 1) → n ∈ used ++ indicesFor used requests := by
      intro n _ hn
      rcases Nat.lt_succ_iff_lt_or_eq.mp (by omega : n < i + 1) with hlt | rfl
      · rw [hleast] at hlt
        have hm := mem_of_lt_leastMissing hlt
        simp only [List.mem_append, List.mem_filterMap] at hm ⊢
        rcases hm with (hm | ⟨request, hm, rfl⟩) | hm
        · exact .inl hm
        · by_cases hused : n ∈ used
          · exact .inl hused
          · have htake := (mem_take_indicesFor hused hm requests.length).mpr (by simpa using hm)
            exact .inr (List.mem_of_mem_take htake)
        · exact .inr (List.mem_of_mem_take hm)
      · exact List.mem_append_right _ h
    have hlen := le_length_of_forall_mem hall
    rw [List.length_append, length_indicesFor] at hlen
    omega

end

end GeoDrafts
