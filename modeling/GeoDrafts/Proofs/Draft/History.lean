import GeoDrafts.Proofs.Draft.Birth

/-!
What becomes of a draft over a whole run. The log of a run holds every draft that is added, as it
is stored at first, and a birth mark is a place in the log. A stored draft is the one of the log,
but for the last name given to its identifier since, and the store has its drafts in the order of
the log. A command with an identifier leaves alone all drafts with others.
-/

namespace GeoDrafts

def Edit.added (s : DraftStore) : Edit → List TaskDraft
  | .add batch reproject => (s.addTasks batch reproject).1
  | _ => []

def DraftStore.addedBy (s : DraftStore) : List Edit → List TaskDraft
  | [] => []
  | e :: edits => e.added s ++ (e.apply s).addedBy edits

namespace Command

def added (s : DraftStore) (c : Command) : List TaskDraft := s.addedBy (c.edits s)

/-- Every draft that a run adds, as it is stored at first, with the commands run since. -/
def log (s : DraftStore) : List Command → List (TaskDraft × List Command)
  | [] => []
  | c :: commands => (c.added s).map (·, commands) ++ log (c.run s).2 commands

def givenName? (id : String) : Command → Option String
  | .rename x name => if x = id then some name else none
  | _ => none

/-- The last name that some commands give to an identifier. -/
def lastName? (id : String) (commands : List Command) : Option String :=
  (commands.filterMap (givenName? id)).getLast?

/-- A command that may change or remove the draft with an identifier. -/
def Targets (id : String) : Command → Prop
  | .remove x | .rename x _ | .subdivide x _ _ => x = id
  | .clear => True
  | _ => False

/-- No store on the way through a run holds `2 ^ 64` drafts, as no list in memory does. -/
def Fits (commands : List Command) : Prop :=
  ∀ before, before <+: commands → (runAll .empty before).tasks.length < 2 ^ 64

theorem Fits.of_append {before after : List Command} (h : Fits (before ++ after)) : Fits before :=
  fun first hfirst => h first (hfirst.trans (List.prefix_append before after))

theorem Fits.reachable {commands : List Command} (h : Fits commands) :
    Reachable (runAll .empty commands) := by
  induction commands using List.reverseRecOn with
  | nil => exact .empty
  | append_singleton commands c ih =>
    have hlast := h _ (List.prefix_refl _)
    rw [runAll_append] at hlast ⊢
    exact .run c (ih h.of_append) hlast

theorem length_runAll_le (s : DraftStore) (commands : List Command) :
    (runAll s commands).tasks.length ≤ s.tasks.length + total s commands := by
  induction commands generalizing s with
  | nil => exact le_refl _
  | cons c commands ih =>
    have hhead := length_run_le s c
    have htail := ih (c.run s).2
    rw [runAll_cons, total]
    omega

theorem total_append (s : DraftStore) (before after : List Command) :
    total s (before ++ after) = total s before + total (runAll s before) after := by
  induction before generalizing s with
  | nil => simp [total]
  | cons c before ih => rw [List.cons_append, total, total, ih, runAll_cons, Nat.add_assoc]

/-- Runs that add fewer than `2 ^ 64` drafts in total fit. -/
theorem Fits.of_total {commands : List Command} (h : total .empty commands < 2 ^ 64) :
    Fits commands := by
  rintro before ⟨after, rfl⟩
  have hlength := length_runAll_le .empty before
  have hempty : DraftStore.empty.tasks.length = 0 := rfl
  rw [total_append] at h
  omega

/-! ## The log and the names of longer runs -/

theorem lastName?_concat (id : String) (commands : List Command) (c : Command) :
    lastName? id (commands ++ [c]) = (givenName? id c).or (lastName? id commands) := by
  rw [lastName?, List.filterMap_append, List.getLast?_append, lastName?]
  cases h : givenName? id c <;> simp [h]

theorem log_concat (s : DraftStore) (commands : List Command) (c : Command) :
    log s (commands ++ [c]) = (log s commands).map (fun d => (d.1, d.2 ++ [c])) ++
      (c.added (runAll s commands)).map (·, []) := by
  induction commands generalizing s with
  | nil => simp [log]
  | cons first commands ih =>
    rw [List.cons_append, log, log, ih, List.map_append, List.map_map, List.append_assoc,
      runAll_cons]
    rfl

end Command

namespace MarkedStore

variable {m : MarkedStore} {b : Nat} {t : TaskDraft}

theorem length_added_edit (s : DraftStore) (e : Edit) : (e.added s).length = e.count := by
  cases e with
  | add batch reproject => exact s.length_added batch reproject
  | _ => rfl

theorem added_applyAll (m : MarkedStore) (edits : List Edit) :
    (m.applyAll edits).added = m.added + (m.store.addedBy edits).length := by
  induction edits generalizing m with
  | nil => rfl
  | cons e edits ih =>
    rw [DraftStore.addedBy, List.length_append, length_added_edit, ← Nat.add_assoc]
    exact ih (m.apply e)

theorem length_log (commands : List Command) :
    (Command.log .empty commands).length = (empty.runAll commands).added := by
  induction commands using List.reverseRecOn with
  | nil => rfl
  | append_singleton commands c ih =>
    rw [Command.log_concat, runAll_append, List.length_append, List.length_map, List.length_map, ih,
      Command.added]
    have hstore : (empty.runAll commands).store = Command.runAll .empty commands :=
      store_runAll _ _
    rw [← hstore]
    exact (added_applyAll _ _).symm

/-! ## The drafts after a command -/

/-- A draft is one from before or a new one, unless drafts are renamed. -/
theorem mem_drafts_apply (h : m.Consistent) {e : Edit} (hrename : ∀ id name, e ≠ .rename id name)
    (hmem : (b, t) ∈ (m.apply e).drafts) :
    (b, t) ∈ m.drafts ∨ ∃ k, b = m.added + k ∧ (e.added m.store)[k]? = some t := by
  cases e with
  | add batch reproject =>
    rw [drafts_add h.length] at hmem
    refine (List.mem_append.mp hmem).imp_right fun hnew => ?_
    obtain ⟨k, hk⟩ := List.mem_iff_getElem?.mp hnew
    obtain ⟨hb, ht⟩ := List.getElem?_zip_eq_some.mp hk
    have hlt := (List.getElem?_eq_some_iff.mp ht).1
    rw [DraftStore.length_added] at hlt
    rw [List.getElem?_range' hlt, Nat.one_mul] at hb
    exact ⟨k, (Option.some.inj hb).symm, ht⟩
  | remove id =>
    rw [drafts_remove] at hmem
    exact .inl (List.mem_of_mem_eraseP hmem)
  | rename id name => exact absurd rfl (hrename id name)
  | select id =>
    left
    rwa [drafts, store_apply, Edit.apply, DraftStore.tasks_select] at hmem
  | clear => cases hmem
  | deselect => exact .inl hmem
  | subscribe => exact .inl hmem
  | unsubscribe number => exact .inl hmem

theorem mem_drafts_applyAll (h : m.Consistent) {edits : List Edit}
    (hrename : ∀ e ∈ edits, ∀ id name, e ≠ .rename id name)
    (hmem : (b, t) ∈ (m.applyAll edits).drafts) :
    (b, t) ∈ m.drafts ∨ ∃ k, b = m.added + k ∧ (m.store.addedBy edits)[k]? = some t := by
  induction edits generalizing m with
  | nil => exact .inl hmem
  | cons e edits ih =>
    obtain ⟨hhead, htail⟩ := List.forall_mem_cons.mp hrename
    rw [DraftStore.addedBy]
    rcases ih (h.apply e) htail hmem with hfirst | ⟨k, rfl, hk⟩
    · refine (mem_drafts_apply h hhead hfirst).imp_right ?_
      rintro ⟨k, rfl, hk⟩
      exact ⟨k, rfl, by rw [List.getElem?_append_left (List.getElem?_eq_some_iff.mp hk).1, hk]⟩
    · right
      refine ⟨e.count + k, Nat.add_assoc _ _ _, ?_⟩
      rw [← length_added_edit m.store e, List.getElem?_append_right (Nat.le_add_right _ _),
        Nat.add_sub_cancel_left]
      exact hk

/-- What stands at the place of a mark after a replacement. -/
private theorem mem_zip_replaceTask {id : String} {new : TaskDraft} {births : List Nat}
    {tasks : List TaskDraft} (h : (b, t) ∈ births.zip (DraftStore.replaceTask id new tasks)) :
    ((b, t) ∈ births.zip tasks ∧ ((tasks.map (·.id)).Nodup → t.id ≠ id)) ∨
      (t = new ∧ ∃ u, (b, u) ∈ births.zip tasks ∧ tasks.find? (fun t => t.id == id) = some u) := by
  induction tasks generalizing births with
  | nil => cases births <;> cases h
  | cons u tasks ih =>
    cases births with
    | nil => cases h
    | cons first births =>
      unfold DraftStore.replaceTask at h
      split at h
      · rename_i hu
        rcases List.mem_cons.mp h with hhead | htail
        · cases hhead
          exact .inr ⟨rfl, u, List.mem_cons_self, List.find?_cons_of_pos hu⟩
        · refine .inl ⟨List.mem_cons_of_mem _ htail, fun hnodup heq => ?_⟩
          have ht : t.id ∈ tasks.map (·.id) := List.mem_map_of_mem (List.of_mem_zip htail).2
          rw [heq, ← beq_iff_eq.mp hu] at ht
          exact (List.nodup_cons.mp hnodup).1 ht
      · rename_i hu
        rcases List.mem_cons.mp h with hhead | htail
        · cases hhead
          exact .inl ⟨List.mem_cons_self, fun _ heq => hu (beq_iff_eq.mpr heq)⟩
        · rcases ih htail with ⟨hold, hne⟩ | ⟨hnew, v, hv, hfind⟩
          · exact .inl ⟨List.mem_cons_of_mem _ hold, fun hnodup => hne (List.nodup_cons.mp hnodup).2⟩
          · refine .inr ⟨hnew, v, List.mem_cons_of_mem _ hv, ?_⟩
            rwa [List.find?_cons_of_neg (p := fun t : TaskDraft => t.id == id) hu]

private theorem mem_zip_replaceTask_of_ne {id : String} {new : TaskDraft} {births : List Nat}
    {tasks : List TaskDraft} (h : (b, t) ∈ births.zip tasks) (hne : t.id ≠ id) :
    (b, t) ∈ births.zip (DraftStore.replaceTask id new tasks) := by
  induction tasks generalizing births with
  | nil => cases births <;> cases h
  | cons u tasks ih =>
    cases births with
    | nil => cases h
    | cons first births =>
      unfold DraftStore.replaceTask
      rcases List.mem_cons.mp h with hhead | htail
      · cases hhead
        rw [if_neg (by simpa using hne)]
        exact List.mem_cons_self
      · split
        · exact List.mem_cons_of_mem _ htail
        · exact List.mem_cons_of_mem _ (ih htail)

/-- A renamed draft is the one from before but for its name. -/
theorem mem_drafts_rename {id name : String}
    (hmem : (b, t) ∈ (m.apply (.rename id name)).drafts) :
    ∃ u, (b, u) ∈ m.drafts ∧ t = { u with name := t.name } ∧
      (m.store.ids.Nodup → t.name = if id = u.id then name else u.name) := by
  cases hfind : m.store.find? id with
  | none =>
    rw [drafts, store_apply, Edit.apply, DraftStore.rename_of_find?_eq_none hfind] at hmem
    refine ⟨t, hmem, rfl, fun _ => ?_⟩
    rw [if_neg]
    rintro rfl
    have ht : t.id ∈ m.store.ids := List.mem_map_of_mem (List.of_mem_zip hmem).2
    exact DraftStore.find?_eq_none_iff.mp hfind ht
  | some first =>
    rw [drafts, store_apply, Edit.apply, DraftStore.tasks_rename hfind] at hmem
    rcases mem_zip_replaceTask hmem with ⟨hold, hne⟩ | ⟨rfl, u, hu, hfirst⟩
    · exact ⟨t, hold, rfl, fun hnodup => by rw [if_neg (hne hnodup).symm]⟩
    · obtain rfl : first = u := Option.some.inj (hfind.symm.trans hfirst)
      exact ⟨first, hu, rfl, fun _ => by rw [if_pos (DraftStore.mem_ids_of_find? hfind).2.symm]⟩

/-- **A step.** A draft is one from before, but for a name that the command gives to its identifier,
or it is a new one. -/
theorem mem_drafts_run (h : m.Consistent) (c : Command) (hmem : (b, t) ∈ (m.run c).drafts) :
    (∃ u, (b, u) ∈ m.drafts ∧ t = { u with name := t.name } ∧
      (m.store.ids.Nodup → t.name = (c.givenName? u.id).getD u.name)) ∨
    ∃ k, b = m.added + k ∧ (c.added m.store)[k]? = some t := by
  by_cases hrename : ∃ id name, c = .rename id name
  · obtain ⟨id, name, rfl⟩ := hrename
    obtain ⟨u, hu, ht, hname⟩ := mem_drafts_rename hmem
    refine .inl ⟨u, hu, ht, fun hnodup => ?_⟩
    rw [hname hnodup, Command.givenName?]
    split <;> rfl
  · have hnone : ∀ e ∈ c.edits m.store, ∀ id name, e ≠ .rename id name := by
      rintro e he id name rfl
      exact hrename ⟨id, name, Command.eq_command_of_mem_edits he (by simp) (by simp)⟩
    have hunnamed : ∀ id, c.givenName? id = none := by
      intro id
      cases c with
      | rename x name => exact absurd ⟨x, name, rfl⟩ hrename
      | _ => rfl
    refine (mem_drafts_applyAll h hnone hmem).imp_left fun hold => ⟨t, hold, rfl, fun _ => ?_⟩
    rw [hunnamed, Option.getD_none]

/-- An edit leaves alone what its command does not target. -/
theorem mem_drafts_apply_of_not_targets (h : m.Consistent) {e : Edit} (hmem : (b, t) ∈ m.drafts)
    (htargets : ¬ e.command.Targets t.id) : (b, t) ∈ (m.apply e).drafts := by
  cases e with
  | add batch reproject =>
    rw [drafts_add h.length]
    exact List.mem_append_left _ hmem
  | remove id =>
    rw [drafts_remove]
    refine (List.mem_eraseP_of_neg ?_).mpr hmem
    exact fun heq => htargets (beq_iff_eq.mp heq).symm
  | rename id name =>
    cases hfind : m.store.find? id with
    | none => rwa [drafts, store_apply, Edit.apply, DraftStore.rename_of_find?_eq_none hfind]
    | some first =>
      rw [drafts, store_apply, Edit.apply, DraftStore.tasks_rename hfind]
      exact mem_zip_replaceTask_of_ne hmem fun heq => htargets heq.symm
  | select id => rwa [drafts, store_apply, Edit.apply, DraftStore.tasks_select]
  | clear => exact absurd trivial htargets
  | deselect => exact hmem
  | subscribe => exact hmem
  | unsubscribe number => exact hmem

theorem mem_drafts_applyAll_of_not_targets (h : m.Consistent) {edits : List Edit}
    (hmem : (b, t) ∈ m.drafts) (htargets : ∀ e ∈ edits, ¬ e.command.Targets t.id) :
    (b, t) ∈ (m.applyAll edits).drafts := by
  induction edits generalizing m with
  | nil => exact hmem
  | cons e edits ih =>
    obtain ⟨hhead, htail⟩ := List.forall_mem_cons.mp htargets
    exact ih (h.apply e) (mem_drafts_apply_of_not_targets h hmem hhead) htail

/-- A command leaves alone what it does not target. -/
theorem mem_drafts_run_of_not_targets (h : m.Consistent) {c : Command} (hmem : (b, t) ∈ m.drafts)
    (htargets : ¬ c.Targets t.id) : (b, t) ∈ (m.run c).drafts := by
  apply mem_drafts_applyAll_of_not_targets h hmem
  intro e he hedit
  apply htargets
  rcases Command.mem_edits_cases he with rfl | ⟨batch, reproject, rfl⟩ | ⟨id, _, _, rfl, rfl⟩
  · exact hedit
  · exact hedit.elim
  · exact hedit

/-- **A run.** A stored draft is the one of the log, but for the last name given to it since. -/
theorem mem_drafts_runAll (commands : List Command)
    (hmem : (b, t) ∈ (empty.runAll commands).drafts) :
    ∃ first since, (Command.log .empty commands)[b]? = some (first, since) ∧
      t = { first with name := t.name } ∧
      (Command.Fits commands → t.name = (Command.lastName? first.id since).getD first.name) := by
  induction commands using List.reverseRecOn generalizing t with
  | nil => cases hmem
  | append_singleton commands c ih =>
    have hm : (empty.runAll commands).Consistent := consistent_empty.runAll commands
    have hstore : (empty.runAll commands).store = Command.runAll .empty commands :=
      store_runAll _ _
    rw [runAll_append] at hmem
    rw [Command.log_concat]
    rcases mem_drafts_run hm c hmem with ⟨u, hu, ht, hname⟩ | ⟨k, rfl, hk⟩
    · obtain ⟨first, since, hfirst, hsame, hold⟩ := ih hu
      refine ⟨first, since ++ [c], ?_, ?_, fun hfits => ?_⟩
      · rw [List.getElem?_append_left, List.getElem?_map, hfirst]
        · rfl
        · rw [List.length_map]
          exact (List.getElem?_eq_some_iff.mp hfirst).1
      · rw [ht, hsame]
      · have hnodup : (empty.runAll commands).store.ids.Nodup :=
          hstore ▸ hfits.of_append.reachable.identified.nodup
        have hid : u.id = first.id := by rw [hsame]
        rw [hname hnodup, hold hfits.of_append, Command.lastName?_concat, hid]
        cases Command.givenName? first.id c <;> rfl
    · refine ⟨t, [], ?_, rfl, fun _ => rfl⟩
      rw [List.getElem?_append_right, List.length_map, length_log, Nat.add_sub_cancel_left,
        List.getElem?_map, ← hstore, hk]
      · rfl
      · rw [List.length_map, length_log]
        exact Nat.le_add_right _ _

end MarkedStore

/-- **Histories.** At every point of a run the drafts are in the order in which they were added.
Each has the identifier, the geometry and the process points that it was stored with, and the last
name given to its identifier since it was added, or else the name that it was stored with. A
command changes or removes no draft but the one with its identifier, unless it removes all. -/
theorem drafts_as_added (commands : List Command) :
    let m := MarkedStore.empty.runAll commands
    m.store = Command.runAll .empty commands ∧ m.drafts.map (·.2) = m.store.tasks ∧
    (m.drafts.map (·.1)).Pairwise (· < ·) ∧
    (∀ b t, (b, t) ∈ m.drafts → ∃ first since,
      (Command.log .empty commands)[b]? = some (first, since) ∧
      t.id = first.id ∧ t.geometry = first.geometry ∧ t.processPoints = first.processPoints ∧
      (Command.Fits commands → t.name = (Command.lastName? t.id since).getD first.name)) ∧
    ∀ (c : Command) b t, (b, t) ∈ m.drafts → ¬ c.Targets t.id → (b, t) ∈ (m.run c).drafts := by
  intro m
  have hm : m.Consistent := MarkedStore.consistent_empty.runAll commands
  refine ⟨MarkedStore.store_runAll _ _, List.map_snd_zip hm.length.ge, ?_, ?_, ?_⟩
  · rw [MarkedStore.drafts, List.map_fst_zip hm.length.le]
    exact hm.increasing
  · intro b t hmem
    obtain ⟨first, since, hfirst, hsame, hname⟩ := MarkedStore.mem_drafts_runAll commands hmem
    have hid : t.id = first.id := by rw [hsame]
    exact ⟨first, since, hfirst, hid, by rw [hsame], by rw [hsame], hid ▸ hname⟩
  · exact fun c b t hmem htargets => MarkedStore.mem_drafts_run_of_not_targets hm hmem htargets

/-- The next draft with the identifier `0` does not get the name that was given to the one before
it. -/
theorem drafts_as_added_of_reused_id :
    let named (name : String) : NewDraft := ⟨none, some name, .polygon [], 0⟩
    let commands : List Command := [.addTasks [named "Yard"] false, .rename "0" "Quay", .clear,
      .addTasks [named "Pier"] false]
    let m := MarkedStore.empty.runAll commands
    Command.Fits commands ∧ m.births = [1] ∧
      ∀ t, (1, t) ∈ m.drafts → t.id = "0" ∧ t.name = "Pier" := by
  intro named commands m
  let earlier : List Command := [.addTasks [named "Yard"] false, .rename "0" "Quay", .clear]
  have hpier : Command.added (Command.runAll .empty earlier) (.addTasks [named "Pier"] false) =
      [⟨"0", "Pier", .polygon [], 0⟩] := by
    have hassign : (Command.runAll .empty earlier).assignAll [named "Pier"] = [0] := by
      have hindices : (Command.runAll .empty earlier).indices = [] := by
        rw [DraftStore.indices]
        exact congrArg _ (DraftStore.tasks_clear _)
      rw [DraftStore.assignAll_eq_indicesFor, hindices]
      decide +kernel
    change (DraftStore.addTasks _ _ _).1 ++ [] = _
    rw [DraftStore.added_addTasks, hassign]
    decide +kernel
  have hfits : Command.Fits commands := .of_total (by decide)
  have hlog : (Command.log .empty commands)[1]? = some (⟨"0", "Pier", .polygon [], 0⟩, []) := by
    have hsplit : commands = earlier ++ [.addTasks [named "Pier"] false] := rfl
    have hlength : (Command.log .empty earlier).length = 1 := MarkedStore.length_log earlier
    rw [hsplit, Command.log_concat, hpier, List.getElem?_append_right, List.length_map, hlength]
    · rfl
    · rw [List.length_map, hlength]
  refine ⟨hfits, rfl, fun t ht => ?_⟩
  obtain ⟨-, -, -, hstored, -⟩ := drafts_as_added commands
  obtain ⟨first, since, hfirst, hid, -, -, hname⟩ := hstored 1 t ht
  rw [hlog] at hfirst
  cases hfirst
  exact ⟨hid, hname hfits⟩

end GeoDrafts
