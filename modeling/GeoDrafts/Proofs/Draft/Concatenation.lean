import GeoDrafts.Proofs.Draft.Batch

/-!
One batch or two. The search for free indices goes on within a batch, and starts again for the next
one from the identifiers that are stored. Where the second of two batches asks for no index, both
find the same: what the first one asked for is in use by then, and the identifiers denote the very
indices that were given.
-/

namespace GeoDrafts

/-! ## The indices of consecutive requests -/

/-- A scan goes on with what was given before. -/
theorem freshScan_append (used reserved given : List Nat) (first second : List (Option Nat)) :
    freshScan used reserved given (first ++ second) = freshScan used reserved given first ++
      freshScan used reserved (given ++ freshScan used reserved given first) second := by
  induction first generalizing given with
  | nil => rw [List.nil_append, freshScan, List.nil_append, List.append_nil]
  | cons request first ih =>
    simp only [List.cons_append, freshScan, ih, List.append_assoc, List.nil_append]

/-- Scans give the same as long as the same numbers are taken and the same are left out. -/
theorem freshScan_congr {used reserved given used' reserved' given' : List Nat}
    (htaken : ∀ i, i ∈ used ++ given ↔ i ∈ used' ++ given')
    (hout : ∀ i, i ∈ used ++ reserved ++ given ↔ i ∈ used' ++ reserved' ++ given')
    (requests : List (Option Nat)) :
    freshScan used reserved given requests = freshScan used' reserved' given' requests := by
  induction requests generalizing given given' with
  | nil => rfl
  | cons request requests ih =>
    have hnext : (request.filter fun i => i ∉ used ++ given) =
        request.filter fun i => i ∉ used' ++ given' := by
      simp only [htaken]
    have hmore : ∀ {l l' : List Nat} (j : Nat), (∀ i, i ∈ l ↔ i ∈ l') →
        ∀ i, i ∈ l ++ [j] ↔ i ∈ l' ++ [j] := by
      intro l l' j h i
      rw [List.mem_append, List.mem_append, h]
    simp only [freshScan, hnext, leastMissing_congr hout]
    congr 1
    apply ih
    · simpa only [List.append_assoc] using hmore _ htaken
    · simpa only [List.append_assoc] using hmore _ hout

/-- What is asked for is in use afterwards, or was before. -/
theorem mem_append_indicesFor {used : List Nat} {requests : List (Option Nat)} {i : Nat}
    (h : some i ∈ requests) : i ∈ used ++ indicesFor used requests := by
  by_cases hused : i ∈ used
  · exact List.mem_append_left _ hused
  · have hgiven := (mem_take_indicesFor hused h requests.length).mpr (by rwa [List.take_length])
    exact List.mem_append_right _ (List.mem_of_mem_take hgiven)

/-- Requests for nothing get the same as if they came later. -/
theorem indicesFor_append {second : List (Option Nat)} (hnone : ∀ request ∈ second, request = none)
    (used : List Nat) (first : List (Option Nat)) :
    indicesFor used (first ++ second) =
      indicesFor used first ++ indicesFor (used ++ indicesFor used first) second := by
  have hreserved : second.filterMap id = [] := List.filterMap_eq_nil_iff.mpr hnone
  have hfirst : (first ++ second).filterMap id = first.filterMap id := by
    rw [List.filterMap_append, hreserved, List.append_nil]
  have hout : ∀ i, i ∈ used ++ first.filterMap id ++ indicesFor used first ↔
      i ∈ used ++ indicesFor used first := by
    intro i
    rw [List.mem_append, List.mem_append, List.mem_append]
    constructor
    · rintro ((hused | hasked) | hgiven)
      · exact .inl hused
      · obtain ⟨request, hrequest, rfl⟩ := List.mem_filterMap.mp hasked
        exact List.mem_append.mp (mem_append_indicesFor hrequest)
      · exact .inr hgiven
    · exact .imp_left .inl
  calc
    indicesFor used (first ++ second)
    _ = indicesFor used first ++
          freshScan used (first.filterMap id) (indicesFor used first) second := by
      rw [indicesFor, hfirst, freshScan_append]
      rfl
    _ = indicesFor used first ++ freshScan (used ++ indicesFor used first) [] [] second :=
      congrArg _ (freshScan_congr (fun i => by rw [List.append_nil])
        (fun i => by rw [List.append_nil, List.append_nil, hout]) second)
    _ = indicesFor used first ++ indicesFor (used ++ indicesFor used first) second := by
      rw [indicesFor.eq_1 (used ++ _), hreserved]

namespace DraftStore

/-! ## Consecutive batches -/

/-- The indices that were given are the ones that are read from the stored identifiers. -/
theorem indices_addTasks {s : DraftStore} {batch : List NewDraft}
    (hroom : s.tasks.length + batch.length ≤ 2 ^ 64) (reproject : Bool) :
    (s.addTasks batch reproject).2.indices = s.indices ++ s.assignAll batch := by
  have hread : (s.addTasks batch reproject).1.filterMap (fun t => indexOfText? t.id) =
      s.assignAll batch :=
    filterMap_index_of_ids map_id_added fun i hi => lt_of_mem_assignAll hroom hi
  rw [indices, tasks_addTasks, List.filterMap_append, hread]
  rfl

theorem assignAll_append {s : DraftStore} {a b : List NewDraft} (reproject : Bool)
    (hnone : ∀ d ∈ b, d.index? = none) (hroom : s.tasks.length + a.length ≤ 2 ^ 64) :
    s.assignAll (a ++ b) = s.assignAll a ++ (s.addTasks a reproject).2.assignAll b := by
  have hrequests : ∀ request ∈ b.map NewDraft.index?, request = none :=
    List.forall_mem_map.mpr hnone
  rw [assignAll_eq_indicesFor, assignAll_eq_indicesFor _ b, indices_addTasks hroom,
    assignAll_eq_indicesFor, List.map_append, indicesFor_append hrequests]

end DraftStore

/-- **One batch or two.** If no draft of the second of two batches asks for an index, then adding
both at once and adding one after the other store and return the same drafts, as long as indices
are left. -/
theorem addTasks_append (s : DraftStore) (a b : List NewDraft) (reproject : Bool)
    (hnone : ∀ d ∈ b, d.index? = none) (hroom : s.tasks.length + a.length ≤ 2 ^ 64) :
    let whole := s.addTasks (a ++ b) reproject
    let first := s.addTasks a reproject
    let second := first.2.addTasks b reproject
    whole.1 = first.1 ++ second.1 ∧ whole.2.tasks = second.2.tasks ∧
      whole.2.selected = second.2.selected := by
  intro whole first second
  have hadded : whole.1 = first.1 ++ second.1 := by
    rw [DraftStore.added_addTasks, DraftStore.assignAll_append reproject hnone hroom,
      List.zipWith_append (s.length_assignAll a).symm, ← DraftStore.added_addTasks,
      ← DraftStore.added_addTasks]
  refine ⟨hadded, ?_, ?_⟩
  · rw [DraftStore.tasks_addTasks, hadded, DraftStore.tasks_addTasks, DraftStore.tasks_addTasks,
      List.append_assoc]
  · rw [DraftStore.selected_addTasks, DraftStore.selected_addTasks, DraftStore.selected_addTasks]

/-- Identifiers that are no indices ask for none; the gaps between 1 and 4 are filled first. -/
theorem addTasks_append_gaps :
    let ask (id : Option RawId) : NewDraft := ⟨id, none, .polygon [], 0⟩
    let s := (DraftStore.empty.addTasks [ask (some (.text "1")), ask (some (.text "4"))] false).2
    let a := [ask none, ask (some (.text "pier"))]
    let b := [ask (some (.number 0.5)), ask none, ask (some (.text "-2"))]
    let whole := s.addTasks (a ++ b) false
    let second := (s.addTasks a false).2.addTasks b false
    whole.1.map (·.id) = ["0", "2", "3", "5", "6"] ∧ whole.2.tasks = second.2.tasks := by
  intro ask s a b whole second
  have hnone : ∀ d ∈ b, d.index? = none := by decide +kernel
  have hstored : [ask (some (.text "1")), ask (some (.text "4"))].map NewDraft.index? =
      [some 1, some 4] := by
    decide +kernel
  have hrequests : (a ++ b).map NewDraft.index? = [none, none, none, none, none] := by
    decide +kernel
  have hindices : s.indices = [1, 4] := by
    rw [DraftStore.indices_addTasks (by decide), DraftStore.assignAll_eq_indicesFor, hstored]
    rfl
  have hgot : indicesFor [1, 4] [none, none, none, none, none] = [0, 2, 3, 5, 6] := by
    simp only [indicesFor, freshScan, leastMissing_eq_find?]
    decide
  have hlength : s.tasks.length + a.length ≤ 2 ^ 64 := by
    rw [DraftStore.tasks_addTasks, List.length_append, DraftStore.length_added]
    decide
  obtain ⟨-, htasks, -⟩ := addTasks_append s a b false hnone hlength
  refine ⟨?_, htasks⟩
  rw [DraftStore.map_id_added, DraftStore.assignAll_eq_indicesFor, hindices, hrequests, hgot]
  rfl

end GeoDrafts
