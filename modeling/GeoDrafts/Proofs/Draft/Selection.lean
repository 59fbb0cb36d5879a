import GeoDrafts.Proofs.Draft.Birth

/-!
The selected draft over a whole run. The selection is an identifier, and identifiers are used
again; but a draft cannot leave the store without the selection of its identifier. So the draft
that is selected is the one that was chosen, and it has been stored and selected ever since.
-/

namespace GeoDrafts

def DraftStore.Selects (s : DraftStore) (id : String) : Prop := (s.select id).2.selected = some id

theorem DraftStore.Selects.mem_ids {s : DraftStore} {id : String} (h : s.Selects id) :
    id ∈ s.ids := by
  rw [Selects, selected_select] at h
  split at h
  · cases h
  · rename_i hother
    split at h
    · rename_i hfound
      exact find?_isSome_iff.mp hfound
    · exact absurd h hother

/-- A call that makes nothing the selection leaves alone what is still selected after it. -/
theorem DraftStore.selected_of_not_selects {s : DraftStore} {x id : String} (h : ¬ s.Selects x)
    (hafter : (s.select x).2.selected = some id) : s.selected = some id := by
  rw [Selects] at h
  rw [selected_select] at h hafter
  split at hafter
  · cases hafter
  · rename_i hother
    rw [if_neg hother] at h
    split at hafter
    · rename_i hfound
      exact absurd (if_pos hfound) h
    · exact hafter

namespace MarkedStore

variable {m : MarkedStore} {id : String}

/-- What is taken out of a list is not what is looked for. -/
private theorem find?_eraseP {α : Type} {p q : α → Bool} (h : ∀ a, q a → ¬ p a) (l : List α) :
    (l.eraseP q).find? p = l.find? p := by
  induction l with
  | nil => rfl
  | cons a l ih =>
    cases hq : q a with
    | true => rw [List.eraseP_cons_of_pos hq, List.find?_cons_of_neg (h a hq)]
    | false =>
      rw [List.eraseP_cons_of_neg (by simp [hq])]
      simp only [List.find?_cons, ih]

theorem birth?_add (h : m.Consistent) (batch : List NewDraft) (reproject : Bool) {b : Nat}
    (hb : m.birth? id = some b) : (m.apply (.add batch reproject)).birth? id = some b := by
  obtain ⟨d, hd, rfl⟩ := Option.map_eq_some_iff.mp hb
  rw [birth?, drafts_add h.length, List.find?_append, hd]
  rfl

theorem birth?_remove {other : String} (hne : other ≠ id) :
    (m.apply (.remove other)).birth? id = m.birth? id := by
  rw [birth?, drafts_remove, find?_eraseP]
  · rfl
  · intro d hd hid
    exact hne (by rw [← beq_iff_eq.mp hd, beq_iff_eq.mp hid])

/-- Unless something is selected by an edit, what is selected after it was selected before, and is
the same draft. -/
theorem birth?_apply (h : m.Consistent) {e : Edit} (hselect : ∀ x, e ≠ .select x)
    (hafter : (e.apply m.store).selected = some id) :
    m.store.selected = some id ∧ ∀ b, m.birth? id = some b → (m.apply e).birth? id = some b := by
  cases e with
  | add batch reproject =>
    rw [Edit.apply, DraftStore.selected_addTasks] at hafter
    exact ⟨hafter, fun b hb => birth?_add h batch reproject hb⟩
  | remove other =>
    have hbefore : m.store.selected = some id ∧ (other = id → other ∉ m.store.ids) := by
      cases hfind : m.store.find? other with
      | none =>
        rw [Edit.apply, DraftStore.removeTask_of_find?_eq_none hfind] at hafter
        exact ⟨hafter, fun _ => DraftStore.find?_eq_none_iff.mp hfind⟩
      | some t =>
        rw [Edit.apply, DraftStore.selected_removeTask hfind] at hafter
        split at hafter
        · cases hafter
        · rename_i hother
          exact ⟨hafter, fun heq => absurd (heq ▸ hafter) hother⟩
    refine ⟨hbefore.1, fun b hb => ?_⟩
    have hne : other ≠ id := fun heq => hbefore.2 heq (heq ▸ (mem_of_birth? hb).2)
    rwa [birth?_remove hne]
  | rename other name =>
    rw [Edit.apply, DraftStore.selected_rename] at hafter
    refine ⟨hafter, fun b hb => ?_⟩
    rw [birth?_eq] at hb ⊢
    rwa [store_apply, Edit.apply, DraftStore.ids_rename]
  | select other => exact absurd rfl (hselect other)
  | deselect => cases hafter
  | clear =>
    rw [Edit.apply, DraftStore.selected_clear] at hafter
    cases hafter
  | subscribe => exact ⟨hafter, fun b hb => hb⟩
  | unsubscribe number => exact ⟨hafter, fun b hb => hb⟩

theorem birth?_applyAll (h : m.Consistent) {edits : List Edit}
    (hselect : ∀ e ∈ edits, ∀ x, e ≠ .select x) (hafter : (m.applyAll edits).store.selected = some id) :
    m.store.selected = some id ∧
      ∀ b, m.birth? id = some b → (m.applyAll edits).birth? id = some b := by
  induction edits generalizing m with
  | nil => exact ⟨hafter, fun b hb => hb⟩
  | cons e edits ih =>
    obtain ⟨hhead, htail⟩ := List.forall_mem_cons.mp hselect
    obtain ⟨hselected, hbirth⟩ := ih (h.apply e) htail hafter
    obtain ⟨hfirst, hfirstBirth⟩ := birth?_apply h hhead hselected
    exact ⟨hfirst, fun b hb => hbirth b (hfirstBirth b hb)⟩

theorem birth?_select (m : MarkedStore) (x : String) :
    (m.run (.select x)).birth? id = m.birth? id := by
  rw [birth?_eq, birth?_eq, store_run, Command.run]
  simp only [DraftStore.ids, Prod.map_snd, DraftStore.tasks_select]
  rfl

/-- **A step.** What is selected after a command was chosen by it, or was selected before it and is
the same draft. -/
theorem selected_run (h : m.Consistent) {c : Command}
    (hafter : (m.run c).store.selected = some id) :
    (c = .select id ∧ m.store.Selects id) ∨
      (m.store.selected = some id ∧ (∀ x, c = .select x → ¬ m.store.Selects x) ∧
        ∀ b, m.birth? id = some b → (m.run c).birth? id = some b) := by
  by_cases hselect : ∃ x, c = .select x
  · obtain ⟨x, rfl⟩ := hselect
    have hselected : (m.store.select x).2.selected = some id := by rwa [store_run] at hafter
    by_cases hx : m.store.Selects x
    · left
      obtain rfl : x = id := Option.some.inj (hx.symm.trans hselected)
      exact ⟨rfl, hx⟩
    · right
      refine ⟨DraftStore.selected_of_not_selects hx hselected, ?_,
        fun b hb => by rwa [birth?_select]⟩
      rintro y ⟨⟩
      exact hx
  · right
    have hnone : ∀ e ∈ c.edits m.store, ∀ x, e ≠ .select x := by
      rintro e he x rfl
      exact hselect ⟨x, Command.eq_command_of_mem_edits he (by simp) (by simp)⟩
    obtain ⟨hbefore, hbirth⟩ := birth?_applyAll h hnone hafter
    exact ⟨hbefore, fun x hx => absurd ⟨x, hx⟩ hselect, hbirth⟩

end MarkedStore

/-- A longer list is split at its end, or where the shorter one is. -/
private theorem forall_concat_eq_append {α : Type} {l : List α} {a : α}
    {P : List α → List α → Prop} (hend : P (l ++ [a]) [])
    (hinit : ∀ early late, l = early ++ late → P early (late ++ [a])) :
    ∀ early late, l ++ [a] = early ++ late → P early late := by
  intro early late h
  rcases List.eq_nil_or_concat late with rfl | ⟨late, last, rfl⟩
  · rw [List.append_nil] at h
    exact h ▸ hend
  · rw [List.concat_eq_append] at h ⊢
    rw [← List.append_assoc] at h
    obtain ⟨hsplit, hlast⟩ := List.append_inj' h rfl
    obtain rfl : a = last := (List.cons.inj hlast).1
    exact hinit early late hsplit

/-- **The selection.** A selected draft was chosen by a call that made its identifier the selection,
and it had been added before that call. Since then it has been stored and selected all the time,
and no call has made anything the selection. -/
theorem selected_since_choice (commands : List Command) {id : String}
    (h : (Command.runAll .empty commands).selected = some id) :
    ∃ before after b, commands = before ++ .select id :: after ∧
      (Command.runAll .empty before).Selects id ∧
      (MarkedStore.empty.runAll before).birth? id = some b ∧
      b < (MarkedStore.empty.runAll before).added ∧
      ∀ early late, after = early ++ late →
        let m := MarkedStore.empty.runAll (before ++ .select id :: early)
        m.store.selected = some id ∧ m.birth? id = some b ∧
          ∀ x rest, late = .select x :: rest → ¬ m.store.Selects x := by
  induction commands using List.reverseRecOn generalizing id with
  | nil => cases h
  | append_singleton commands c ih =>
    let m := MarkedStore.empty.runAll commands
    have hm : m.Consistent := MarkedStore.consistent_empty.runAll commands
    have hstore : m.store = Command.runAll .empty commands := MarkedStore.store_runAll _ _
    have hlast : MarkedStore.empty.runAll (commands ++ [c]) = m.run c :=
      MarkedStore.runAll_append _ _ _
    have hafter : (m.run c).store.selected = some id := by
      rw [← hlast, MarkedStore.store_runAll]
      exact h
    rcases MarkedStore.selected_run hm hafter with ⟨rfl, hselects⟩ | ⟨hbefore, hkept, hbirth⟩
    · obtain ⟨b, hb⟩ := hm.exists_birth?_eq hselects.mem_ids
      have hlt := hm.lt_added b (MarkedStore.mem_of_birth? hb).1
      refine ⟨commands, [], b, rfl, hstore ▸ hselects, hb, hlt, ?_⟩
      intro early late hsplit
      obtain ⟨rfl, rfl⟩ := List.nil_eq_append_iff.mp hsplit
      rw [hlast]
      exact ⟨hafter, by rwa [MarkedStore.birth?_select], fun x rest hrest => by cases hrest⟩
    · obtain ⟨before, after, b, rfl, hselects, hb, hlt, hsince⟩ := ih (hstore ▸ hbefore)
      refine ⟨before, after ++ [c], b, by simp, hselects, hb, hlt, forall_concat_eq_append ?_ ?_⟩
      · obtain ⟨-, hbirth', -⟩ := hsince after [] (List.append_nil after).symm
        have hrun : before ++ .select id :: (after ++ [c]) =
            before ++ .select id :: after ++ [c] := by simp
        rw [hrun, hlast]
        exact ⟨hafter, hbirth b hbirth', fun x rest hrest => by cases hrest⟩
      · intro early late hsplit
        obtain ⟨hselected, hbirth', hcalls⟩ := hsince early late hsplit
        refine ⟨hselected, hbirth', fun x rest hrest => ?_⟩
        cases late with
        | nil =>
          -- the next command is the last one of the run
          rw [List.append_nil] at hsplit
          subst hsplit
          exact hkept x (List.cons.inj hrest).1
        | cons next late => exact hcalls x late (by rw [(List.cons.inj hrest).1])

/-- The selection is cleared with its draft, and the next draft with the same identifier is selected
only because it is chosen itself. -/
theorem selected_since_choice_of_reused_id :
    let batch := [NewDraft.ofGeometry (.polygon [])]
    let commands : List Command := [.addTasks batch false, .select "0", .clear,
      .addTasks batch false, .select "0", .rename "0" "Yard"]
    (Command.runAll .empty commands).selected = some "0" ∧
      ∃ before after b, commands = before ++ .select "0" :: after ∧
        (Command.runAll .empty before).Selects "0" ∧
        (MarkedStore.empty.runAll before).birth? "0" = some b ∧
        b < (MarkedStore.empty.runAll before).added ∧
        ∀ early late, after = early ++ late →
          let m := MarkedStore.empty.runAll (before ++ .select "0" :: early)
          m.store.selected = some "0" ∧ m.birth? "0" = some b ∧
            ∀ x rest, late = .select x :: rest → ¬ m.store.Selects x := by
  intro batch commands
  let cleared := ((DraftStore.empty.addTasks batch false).2.select "0").2.clear.2
  have hids : (cleared.addTasks batch false).2.ids = ["0"] := by
    have hindices : cleared.indices = [] := by
      rw [DraftStore.indices, DraftStore.tasks_clear]
      rfl
    have hassign : cleared.assignAll batch = [0] := by
      rw [DraftStore.assignAll_eq_indicesFor, hindices]
      decide +kernel
    rw [DraftStore.ids_addTasks, hassign, DraftStore.ids, DraftStore.tasks_clear]
    rfl
  have hselected : (Command.runAll .empty commands).selected = some "0" := by
    simp only [commands, Command.runAll_cons, Command.runAll_nil, Command.run, Prod.map_snd, id_eq]
    rw [DraftStore.selected_rename, DraftStore.selected_select, DraftStore.selected_addTasks,
      DraftStore.selected_clear, if_neg (by decide), if_pos]
    rw [DraftStore.find?_isSome_iff, hids]
    exact List.mem_singleton_self _
  exact ⟨hselected, selected_since_choice commands hselected⟩

end GeoDrafts
