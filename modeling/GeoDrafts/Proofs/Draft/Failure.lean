import GeoDrafts.Proofs.Draft.Replay

/-!
Commands that fail. Every error comes up before the first edit: a command that fails makes no edit,
so it leaves the store as it was, and no inbox receives anything.
-/

namespace GeoDrafts

/-- A shape is found by its own name. -/
theorem GridShape.ofName_name (shape : GridShape) : ofName shape.name = .ok shape := by
  cases shape <;> decide +kernel

namespace Command

variable {s : DraftStore} {e : DraftError}

/-- A reply in another form is an error only if the result was. -/
private theorem error_of_map {α : Type} {result : Except DraftError α} {reply : α → Reply}
    (h : result.map reply = .error e) : result = .error e := by
  cases result with
  | error cause =>
    cases h
    rfl
  | ok a => cases h

private theorem payloadEdits_of_error {payload : ByteArray}
    (h : (s.addPayload payload).1 = .error e) : payloadEdits payload = [] := by
  unfold DraftStore.addPayload at h
  unfold payloadEdits
  cases hfound : detect? PayloadFormat.all payload with
  | none => rfl
  | some found =>
    simp only [hfound] at h ⊢
    cases hareas : Feature.normalizeAll found.2 with
    | nil => rfl
    | cons area areas =>
      rw [hareas] at h
      cases h

private theorem fetchEdits_of_error {fetched : Except FetchError ByteArray}
    (h : (s.addFetched fetched).1 = .error e) : fetchEdits fetched = [] := by
  cases fetched with
  | error cause => rfl
  | ok payload => exact payloadEdits_of_error h

private theorem addition_of_error {p : ProjectExport} (h : (s.addProject p).1 = .error e) :
    addition p.drafts = [] := by
  unfold DraftStore.addProject at h
  cases hdrafts : p.drafts with
  | nil => rfl
  | cons d batch =>
    rw [hdrafts] at h
    cases h

private theorem exportEdits_of_error {text : String} (h : (s.addExport text).1 = .error e) :
    exportEdits text = [] := by
  unfold DraftStore.addExport at h
  unfold exportEdits
  cases hread : ProjectExport.read? text with
  | none => rfl
  | some p =>
    simp only [hread] at h ⊢
    exact addition_of_error h

/-- The last of the drafts added exists, since there is one draft to add. -/
private theorem addDrawn_ne_error (g : PolygonGeometry) : (s.addDrawn g).1 ≠ .error e := by
  intro h
  have hadded : ∃ t, (s.addTasks [.ofGeometry g] false).1 = [t] := by
    rw [← List.length_eq_one_iff]
    exact s.length_added [.ofGeometry g] false
  obtain ⟨t, ht⟩ := hadded
  simp only [DraftStore.addDrawn, ht, List.getLast?_singleton] at h
  cases h

/-- The cells are known to be there before the draft is removed. -/
private theorem divisionEdits_of_error {id : String} {shape : GridShape} {size : Float}
    (h : (s.subdivide id shape size).1 = .error e) : divisionEdits s id shape size = [] := by
  unfold DraftStore.subdivide at h
  unfold divisionEdits
  cases hfind : s.find? id with
  | none => rfl
  | some t =>
    simp only [hfind] at h ⊢
    cases hcells : Grid.cells t.geometry shape size with
    | error cause => rfl
    | ok cells =>
      cases cells with
      | nil => rfl
      | cons cell cells =>
        rw [hcells] at h
        cases h

/-- A command that fails makes no edit. -/
theorem edits_eq_nil_of_error {c : Command} (h : (c.run s).1 = .error e) : c.edits s = [] := by
  cases c with
  | addPayload payload => exact payloadEdits_of_error (error_of_map h)
  | addFetched fetched =>
    simp only [run, edits, Prod.map_fst] at h ⊢
    exact fetchEdits_of_error (error_of_map h)
  | addRemote url answer =>
    simp only [run, edits, Prod.map_fst] at h ⊢
    exact fetchEdits_of_error (error_of_map h)
  | addDrawn geometry =>
    simp only [run, Prod.map_fst] at h
    exact absurd (error_of_map h) (addDrawn_ne_error geometry)
  | addProject project => exact addition_of_error (error_of_map h)
  | addExport text => exact exportEdits_of_error (error_of_map h)
  | subdivide id shapeName size =>
    simp only [run, edits] at h ⊢
    cases hshape : GridShape.ofName shapeName with
    | error cause => rfl
    | ok shape =>
      rw [hshape] at h
      exact divisionEdits_of_error (error_of_map h)
  | _ => cases h

/-- A command that fails leaves the store as it was, and it sends no event. -/
theorem run_of_error {c : Command} (h : (c.run s).1 = .error e) :
    (c.run s).2 = s ∧ c.events s = [] := by
  have hnone := edits_eq_nil_of_error h
  rw [run_eq_applyAll, events, hnone]
  exact ⟨rfl, rfl⟩

end Command

/-- **Failures.** If a payload cannot be loaded or fetched, in whatever way, if a project cannot be
imported, or if a draft cannot be divided, then the store is as it was before: its drafts in their
order, its selection, and what every subscriber has received. -/
theorem failure_leaves_store (s : DraftStore) :
    (∀ payload e after, s.addPayload payload = (.error e, after) → after = s) ∧
    (∀ (fetch : String → Except FetchError ByteArray) url e after,
      s.addFetched (fetch url) = (.error e, after) → after = s) ∧
    (∀ project e after, s.addProject project = (.error e, after) → after = s) ∧
    ∀ id shape size e after, s.subdivide id shape size = (.error e, after) → after = s := by
  have hsame : ∀ (c : Command) (e : DraftError) (after : DraftStore),
      c.run s = (.error e, after) → after = s := by
    intro c e after hrun
    have hunchanged := (Command.run_of_error (congrArg Prod.fst hrun)).1
    rwa [hrun] at hunchanged
  refine ⟨?_, ?_, ?_, ?_⟩
  · intro payload e after h
    exact hsame (.addPayload payload) e after (by rw [Command.run, h]; rfl)
  · intro fetch url e after h
    exact hsame (.addFetched (fetch url)) e after (by rw [Command.run, h]; rfl)
  · intro project e after h
    exact hsame (.addProject project) e after (by rw [Command.run, h]; rfl)
  · intro id shape size e after h
    apply hsame (.subdivide id shape.name size) e after
    simp only [Command.run, GridShape.ofName_name, h]
    rfl

/-- A store with a selected draft and a subscriber, and four failures: a payload without areas, an
address without an answer, a task that cannot be read, and cells without a size. -/
theorem failure_leaves_selected_draft :
    let s : DraftStore := ⟨[⟨"0", "Yard", .polygon [], 0⟩], some "0", [0], [⟨true, #[]⟩]⟩
    let payload := "POINT (10 53.5)".toUTF8
    let fetch (_ : String) : Except FetchError ByteArray := .error (.request "timeout")
    let project : ProjectExport := ⟨"Survey", "", [⟨"Pier", 5, 10, .text "pier"⟩]⟩
    (s.addPayload payload).1 = .error .noUsableGeometry ∧ (s.addPayload payload).2 = s ∧
      (s.addFetched (fetch "http://a.b/")).1 = .error (.fetch (.request "timeout")) ∧
      (s.addFetched (fetch "http://a.b/")).2 = s ∧
      (s.addProject project).1 = .error .noUsableGeometry ∧ (s.addProject project).2 = s ∧
      (s.subdivide "0" .square 0.0).1 = .error (.invalidBatchInput (.invalidCellSize 0.0)) ∧
      (s.subdivide "0" .square 0.0).2 = s := by
  intro s payload fetch project
  obtain ⟨hpayloads, hfetches, hprojects, hdivisions⟩ := failure_leaves_store s
  have hpayload : (s.addPayload payload).1 = .error .noUsableGeometry := by decide +kernel
  have hfetch : (s.addFetched (fetch "http://a.b/")).1 = .error (.fetch (.request "timeout")) :=
    rfl
  have hproject : (s.addProject project).1 = .error .noUsableGeometry := by decide +kernel
  have hdivision : (s.subdivide "0" .square 0.0).1 =
      .error (.invalidBatchInput (.invalidCellSize 0.0)) := by decide +kernel
  exact ⟨hpayload, hpayloads payload _ _ (Prod.ext hpayload rfl),
    hfetch, hfetches fetch "http://a.b/" _ _ (Prod.ext hfetch rfl),
    hproject, hprojects project _ _ (Prod.ext hproject rfl),
    hdivision, hdivisions _ _ _ _ _ (Prod.ext hdivision rfl)⟩

end GeoDrafts
