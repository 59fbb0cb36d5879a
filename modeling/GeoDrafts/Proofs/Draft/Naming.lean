import GeoDrafts.Proofs.Draft.Batch
import GeoDrafts.Proofs.Draft.History

/-!
Names of drafts. Whatever adds a draft gives it a name that is not blank, the identifier if need
be. Renaming does not do that: it is the one way to a blank name, and another name given to the
draft ends it.
-/

namespace GeoDrafts

theorem Text.isBlank_toString (n : Nat) : isBlank (toString n) = false := by
  rw [isBlank, Nat.toString_eq_repr, Nat.toList_repr]
  obtain ⟨c, hc⟩ := List.exists_mem_of_ne_nil _ (Nat.toDigits_ne_nil (n := n) (b := 10))
  exact List.all_eq_false.mpr
    ⟨c, hc, by rw [isBlankChar_of_isDigit (Decimal.all_isDigit_toDigits n c hc)]; decide⟩

/-! ## The names of new drafts -/

namespace DraftStore

variable {s : DraftStore}

theorem isBlank_name_storedAs (reproject : Bool) (d : NewDraft) (index : Nat) :
    Text.isBlank (storedAs reproject d index).name = false := by
  rw [name_storedAs]
  cases hname : d.name.filter fun name => !Text.isBlank name with
  | none => exact Text.isBlank_toString index
  | some name => simpa using (Option.filter_eq_some_iff.mp hname).2

theorem isBlank_of_mem_added {batch : List NewDraft} {reproject : Bool} {t : TaskDraft}
    (h : t ∈ (s.addTasks batch reproject).1) : Text.isBlank t.name = false := by
  obtain ⟨d, -, index, rfl⟩ := exists_of_mem_added h
  exact isBlank_name_storedAs reproject d index

theorem isBlank_of_mem_addedBy {edits : List Edit} {t : TaskDraft} (h : t ∈ s.addedBy edits) :
    Text.isBlank t.name = false := by
  induction edits generalizing s with
  | nil => cases h
  | cons e edits ih =>
    rcases List.mem_append.mp h with hadded | hrest
    · cases e with
      | add batch reproject => exact isBlank_of_mem_added hadded
      | _ => cases hadded
    · exact ih hrest

end DraftStore

theorem Command.isBlank_of_mem_log {s : DraftStore} {commands : List Command}
    {d : TaskDraft × List Command} (h : d ∈ log s commands) : Text.isBlank d.1.name = false := by
  induction commands generalizing s with
  | nil => cases h
  | cons c commands ih =>
    rcases List.mem_append.mp h with hadded | hrest
    · obtain ⟨t, ht, rfl⟩ := List.mem_map.mp hadded
      exact DraftStore.isBlank_of_mem_addedBy ht
    · exact ih hrest

/-! ## The names of stored drafts -/

/-- No stored draft has a blank name. -/
def DraftStore.Named (s : DraftStore) : Prop := ∀ t ∈ s.tasks, Text.isBlank t.name = false

/-- The command gives no blank name. -/
def Command.Names (c : Command) : Prop := ∀ id name, c = .rename id name → Text.isBlank name = false

namespace DraftStore

variable {s : DraftStore}

theorem mem_replaceTask {id : String} {new t : TaskDraft} {tasks : List TaskDraft}
    (h : t ∈ replaceTask id new tasks) : t = new ∨ t ∈ tasks := by
  induction tasks with
  | nil => cases h
  | cons u tasks ih =>
    unfold replaceTask at h
    split at h
    · exact (List.mem_cons.mp h).imp_right (List.mem_cons_of_mem u)
    · rcases List.mem_cons.mp h with rfl | h
      · exact .inr List.mem_cons_self
      · exact (ih h).imp_right (List.mem_cons_of_mem u)

theorem Named.rename (h : s.Named) (id : String) {name : String}
    (hname : Text.isBlank name = false) : (s.rename id name).2.Named := by
  cases hfind : s.find? id with
  | none => rwa [rename_of_find?_eq_none hfind]
  | some first =>
    intro t ht
    rw [tasks_rename hfind] at ht
    rcases mem_replaceTask ht with rfl | ht
    · exact hname
    · exact h t ht

/-- **A step.** An edit leaves names blank only if it is to give a blank name. -/
theorem Named.apply (h : s.Named) {e : Edit} (hnames : e.command.Names) : (e.apply s).Named := by
  cases e with
  | add batch reproject =>
    intro t ht
    rw [Edit.apply, tasks_addTasks] at ht
    exact (List.mem_append.mp ht).elim (h t) isBlank_of_mem_added
  | remove id =>
    intro t ht
    rw [Edit.apply, tasks_removeTask] at ht
    exact h t (List.mem_of_mem_eraseP ht)
  | rename id name => exact h.rename id (hnames id name rfl)
  | select id =>
    intro t ht
    rw [Edit.apply, tasks_select] at ht
    exact h t ht
  | clear =>
    intro t ht
    rw [Edit.apply, tasks_clear] at ht
    cases ht
  | deselect => exact h
  | subscribe => exact h
  | unsubscribe number => exact h

theorem Named.applyAll (h : s.Named) {edits : List Edit}
    (hnames : ∀ e ∈ edits, e.command.Names) : (s.applyAll edits).Named := by
  induction edits generalizing s with
  | nil => exact h
  | cons e edits ih =>
    obtain ⟨hhead, htail⟩ := List.forall_mem_cons.mp hnames
    exact ih (h.apply hhead) htail

theorem Named.run (h : s.Named) {c : Command} (hnames : c.Names) : (c.run s).2.Named := by
  rw [Command.run_eq_applyAll]
  apply h.applyAll
  intro e he id name hrename
  -- No other command renames, so the edit is the command itself.
  cases e with
  | rename x given =>
    cases hrename
    exact hnames id name (Command.eq_command_of_mem_edits he (by simp) (by simp))
  | _ => cases hrename

/-- **A run.** No draft has a blank name if none is given. -/
theorem Named.runAll (h : s.Named) {commands : List Command}
    (hnames : ∀ c ∈ commands, c.Names) : (Command.runAll s commands).Named := by
  induction commands generalizing s with
  | nil => exact h
  | cons c commands ih =>
    obtain ⟨hhead, htail⟩ := List.forall_mem_cons.mp hnames
    exact ih (h.run hhead) htail

end DraftStore

/-- The draft with a birth mark has a blank name just if the last name given to it is blank. -/
theorem MarkedStore.isBlank_iff {commands : List Command} (hfits : Command.Fits commands) {b : Nat}
    {t first : TaskDraft} {since : List Command} (hmem : (b, t) ∈ (empty.runAll commands).drafts)
    (hfirst : (Command.log .empty commands)[b]? = some (first, since)) :
    Text.isBlank t.name = true ↔
      ∃ name, Command.lastName? t.id since = some name ∧ Text.isBlank name = true := by
  obtain ⟨first', since', hfirst', hsame, hname⟩ := mem_drafts_runAll commands hmem
  rw [hfirst, Option.some.injEq] at hfirst'
  cases hfirst'
  have hid : t.id = first.id := by rw [hsame]
  have hstored : Text.isBlank first.name = false :=
    Command.isBlank_of_mem_log (List.mem_of_getElem? hfirst)
  rw [hname hfits, hid]
  cases Command.lastName? first.id since <;> simp [hstored]

/-- **Names.** A draft is added with a name that is not blank, and no draft gets a blank name
unless a command gives it one. At any point of a run no stored draft has a blank name just if for
none of them the last name given was blank. -/
theorem names_not_blank_iff (commands : List Command) :
    let m := MarkedStore.empty.runAll commands
    let log := Command.log .empty commands
    let tasks := (Command.runAll .empty commands).tasks
    (∀ first since, (first, since) ∈ log → Text.isBlank first.name = false) ∧
    ((∀ id name, .rename id name ∈ commands → Text.isBlank name = false) →
      ∀ t ∈ tasks, Text.isBlank t.name = false) ∧
    (Command.Fits commands →
      ((∀ t ∈ tasks, Text.isBlank t.name = false) ↔
        ∀ b t first since name, (b, t) ∈ m.drafts → log[b]? = some (first, since) →
          Command.lastName? t.id since = some name → Text.isBlank name = false)) := by
  intro m log tasks
  have hm : m.Consistent := MarkedStore.consistent_empty.runAll commands
  have htasks : m.drafts.map (·.2) = tasks := by
    rw [MarkedStore.drafts, List.map_snd_zip hm.length.ge, MarkedStore.store_runAll]
    rfl
  refine ⟨fun first since h => Command.isBlank_of_mem_log h, ?_, fun hfits => ⟨?_, ?_⟩⟩
  · intro hnames
    refine DraftStore.Named.runAll (s := .empty) (fun t ht => absurd ht List.not_mem_nil) ?_
    rintro _ hc id name rfl
    exact hnames id name hc
  · intro hnamed b t first since name hmem hfirst hlast
    have ht : t ∈ tasks := htasks ▸ List.mem_map_of_mem hmem
    by_contra hblank
    have hiff := MarkedStore.isBlank_iff hfits hmem hfirst
    rw [hnamed t ht] at hiff
    exact absurd (hiff.mpr ⟨name, hlast, Bool.eq_true_of_not_eq_false hblank⟩) (by decide)
  · intro hlast t ht
    rw [← htasks] at ht
    obtain ⟨⟨b, t⟩, hmem, rfl⟩ := List.mem_map.mp ht
    obtain ⟨first, since, hfirst, -, -⟩ := MarkedStore.mem_drafts_runAll commands hmem
    by_contra hblank
    obtain ⟨name, hname, hisBlank⟩ := (MarkedStore.isBlank_iff hfits hmem hfirst).mp
      (Bool.eq_true_of_not_eq_false hblank)
    rw [hlast b t first since name hmem hfirst hname] at hisBlank
    cases hisBlank

/-- A draft that was added with a blank name, renamed to another one and then given a name. -/
theorem names_not_blank_after_renaming :
    let commands : List Command := [.addTasks [⟨none, some "  ", .polygon [], 0⟩] false,
      .rename "0" "", .rename "0" "Pier"]
    Command.Fits commands ∧
      ∀ t ∈ (Command.runAll .empty commands).tasks, Text.isBlank t.name = false := by
  intro commands
  have hfits : Command.Fits commands := .of_total (by decide)
  refine ⟨hfits, ((names_not_blank_iff commands).2.2 hfits).mpr ?_⟩
  intro b t first since name _ hfirst hlast
  obtain ⟨t₀, ht₀⟩ : ∃ t₀, (DraftStore.empty.addTasks [⟨none, some "  ", .polygon [], 0⟩] false).1 =
      [t₀] := List.length_eq_one_iff.mp (DraftStore.length_added _ _ _)
  have hlog : Command.log .empty commands = [(t₀, [.rename "0" "", .rename "0" "Pier"])] := by
    simp [commands, Command.log, Command.added, Command.edits, DraftStore.addedBy, Edit.added, ht₀]
  rw [hlog] at hfirst
  obtain ⟨-, rfl⟩ := Prod.mk.inj (List.mem_singleton.mp (List.mem_of_getElem? hfirst))
  by_cases hid : "0" = t.id
  · obtain rfl : "Pier" = name := by simpa [Command.lastName?, Command.givenName?, hid] using hlast
    decide +kernel
  · simp [Command.lastName?, Command.givenName?, hid] at hlast

/-- A name is given as it is, so it may be blank. -/
theorem blank_name_of_rename :
    ¬ ∀ t ∈ (Command.runAll .empty [.addTasks [⟨none, some "Yard", .polygon [], 0⟩] false,
        .rename "0" " "]).tasks, Text.isBlank t.name = false := by
  let batch : List NewDraft := [⟨none, some "Yard", .polygon [], 0⟩]
  let s := (DraftStore.empty.addTasks batch false).2
  intro hnamed
  have hids : s.ids = ["0"] := by
    rw [DraftStore.ids_addTasks, DraftStore.assignAll_eq_indicesFor]
    decide +kernel
  obtain ⟨t, ht, hid⟩ : ∃ t, s.tasks = [t] ∧ t.id = "0" := List.map_eq_singleton_iff.mp hids
  have hfind : s.find? "0" = some t := by simp [DraftStore.find?, ht, hid]
  have hrenamed : (s.rename "0" " ").2.tasks = [{ t with name := " " }] := by
    simp [DraftStore.tasks_rename hfind, ht, DraftStore.replaceTask, hid]
  have hmem : { t with name := " " } ∈ (s.rename "0" " ").2.tasks := by
    rw [hrenamed]
    exact List.mem_singleton_self _
  have hblank : Text.isBlank " " = false := hnamed _ hmem
  exact absurd hblank (by decide +kernel)

end GeoDrafts
