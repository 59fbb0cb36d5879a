import GeoDrafts.Proofs.Markup.Scanning

/-!
The text of an element: it is trimmed at both ends, then its references are resolved, and it is
added to the innermost open element. A tree shows how much text it was built from.
-/

namespace GeoDrafts.Markup

/-! ## Blanks -/

def trimEnd (cs : List Char) : List Char := cs.rdropWhile isSpace

theorem trimSpace_eq (cs : List Char) : trimSpace cs = trimEnd (skipSpace cs) := rfl

theorem trimEnd_append (cs ds : List Char) :
    trimEnd (cs ++ ds) = if trimEnd ds = [] then trimEnd cs else cs ++ trimEnd ds := by
  unfold trimEnd List.rdropWhile
  rw [List.reverse_append, List.dropWhile_append]
  by_cases h : ds.reverse.dropWhile isSpace = []
  · simp [h]
  · simp [h]

theorem trimEnd_cons (c : Char) (cs : List Char) :
    trimEnd (c :: cs) = if isSpace c = true ∧ trimEnd cs = [] then [] else c :: trimEnd cs := by
  have happend := trimEnd_append [c] cs
  rw [List.singleton_append, List.singleton_append] at happend
  have hsingle : trimEnd [c] = if isSpace c = true then [] else [c] := by
    by_cases hc : isSpace c = true <;> simp [trimEnd, List.rdropWhile_singleton, hc]
  rw [happend, hsingle]
  by_cases hcs : trimEnd cs = [] <;> by_cases hc : isSpace c = true <;> simp [hcs, hc]

theorem trimEnd_eq_nil_iff (cs : List Char) : trimEnd cs = [] ↔ skipSpace cs = [] := by
  rw [trimEnd, skipSpace, List.rdropWhile_eq_nil_iff, List.dropWhile_eq_nil_iff]

/-- It does not matter which end is trimmed first. -/
theorem skipSpace_trimEnd (cs : List Char) : skipSpace (trimEnd cs) = trimEnd (skipSpace cs) := by
  induction cs with
  | nil => rfl
  | cons c cs ih =>
    rw [trimEnd_cons]
    by_cases hc : isSpace c = true
    · have hskip : ∀ ds, skipSpace (c :: ds) = skipSpace ds :=
        fun ds => List.dropWhile_cons_of_pos hc
      rw [hskip, ← ih]
      split
      · rename_i hnil
        rw [hnil.2]
      · rw [hskip]
    · have hskip : ∀ ds, skipSpace (c :: ds) = c :: ds :=
        fun ds => List.dropWhile_cons_of_neg hc
      rw [if_neg (fun h => hc h.1), hskip, hskip, trimEnd_cons, if_neg (fun h => hc h.1)]

section
variable {run tail : List Char}

theorem trimSpace_append_of_blank_left (h : skipSpace run = []) :
    trimSpace (run ++ tail) = trimSpace run ++ trimSpace tail := by
  rw [trimSpace_eq, trimSpace_eq run, skipSpace_append_of_blank h, h]
  rfl

theorem trimSpace_append_of_blank_right (h : skipSpace tail = []) :
    trimSpace (run ++ tail) = trimSpace run ++ trimSpace tail := by
  have htail : trimEnd tail = [] := (trimEnd_eq_nil_iff tail).mpr h
  rw [trimSpace_eq tail, h]
  by_cases hrun : skipSpace run = []
  · rw [trimSpace_eq, trimSpace_eq, skipSpace_append_of_blank hrun, h, hrun]
    rfl
  · rw [trimSpace_eq, skipSpace_append_of_ne hrun, trimEnd_append, if_pos htail, trimSpace_eq]
    exact (List.append_nil _).symm

/-- With text on both sides, the blanks in the middle stay. -/
theorem trimSpace_append (hrun : skipSpace run ≠ []) (htail : skipSpace tail ≠ []) :
    trimSpace (run ++ tail) = skipSpace run ++ trimEnd tail := by
  have hend : trimEnd tail ≠ [] := fun h => htail ((trimEnd_eq_nil_iff tail).mp h)
  rw [trimSpace_eq, skipSpace_append_of_ne hrun, trimEnd_append, if_neg hend]

theorem skipSpace_eq_trimSpace_append (h : skipSpace run ≠ []) :
    skipSpace run = trimSpace run ++ run.rtakeWhile isSpace := by
  have hsplit : trimEnd run ++ run.rtakeWhile isSpace = run := List.rdropWhile_append_rtakeWhile
  have hend : skipSpace (trimEnd run) ≠ [] := by
    rw [skipSpace_trimEnd]
    exact fun hnil => h (by rw [← skipSpace_skipSpace]; exact (trimEnd_eq_nil_iff _).mp hnil)
  have hskip := skipSpace_append_of_ne hend (run.rtakeWhile isSpace)
  rwa [hsplit, skipSpace_trimEnd] at hskip

theorem trimEnd_eq_append_trimSpace (h : skipSpace tail ≠ []) :
    trimEnd tail = tail.takeWhile isSpace ++ trimSpace tail := by
  have hsplit : tail.takeWhile isSpace ++ skipSpace tail = tail :=
    List.takeWhile_append_dropWhile
  have hend : trimEnd (skipSpace tail) ≠ [] := by
    rw [Ne, trimEnd_eq_nil_iff, skipSpace_skipSpace]
    exact h
  have htrim := trimEnd_append (tail.takeWhile isSpace) (skipSpace tail)
  rwa [hsplit, if_neg hend] at htrim

theorem trimSpace_squeezed (hrun : skipSpace run ≠ []) (htail : skipSpace tail ≠ []) :
    trimSpace (trimEnd run ++ skipSpace tail) = trimSpace run ++ trimSpace tail := by
  have hrun' : skipSpace (trimEnd run) ≠ [] := by
    rw [skipSpace_trimEnd]
    exact fun h => hrun (by rw [← skipSpace_skipSpace]; exact (trimEnd_eq_nil_iff _).mp h)
  have htail' : skipSpace (skipSpace tail) ≠ [] := by rwa [skipSpace_skipSpace]
  rw [trimSpace_append hrun' htail', skipSpace_trimEnd]
  rfl

end

/-! ## References -/

/-- A place is outside references: each that begins before it also ends before it. -/
def OutsideReference (run : List Char) : Prop := ∀ before after, run = before ++ '&' :: after →
  ';' ∈ after

theorem map_cons_bind_append (before after : Option (List Char)) (c : Char) :
    (before.bind fun b => after.map (b ++ ·)).map (c :: ·) =
      (before.map (c :: ·)).bind fun b => after.map (b ++ ·) := by
  cases before with
  | none => rfl
  | some b => cases after <;> rfl

/-- A reference that is open is closed, and so is every one after it. -/
theorem resolveFrom?_append {run : List Char} (name : Option (List Char))
    (hname : name.isSome = true → ';' ∈ run) (hrun : OutsideReference run) (cs : List Char) :
    resolveFrom? name (run ++ cs) =
      (resolveFrom? name run).bind fun before => (resolveFrom? none cs).map (before ++ ·) := by
  induction run generalizing name with
  | nil =>
    cases name with
    | none => simp [resolveFrom?]
    | some name => exact absurd (hname rfl) List.not_mem_nil
  | cons c run ih =>
    have hmore : OutsideReference run := by
      intro before after heq
      exact hrun (c :: before) after (by rw [heq]; rfl)
    cases name with
    | none =>
      by_cases hc : c = '&'
      · subst hc
        have hclosed : ';' ∈ run := hrun [] run rfl
        rw [List.cons_append, resolveFrom?_amp, resolveFrom?_amp]
        exact ih (some []) (fun _ => hclosed) hmore
      · rw [List.cons_append, resolveFrom?_of_ne hc, resolveFrom?_of_ne hc,
          ih none (fun h => by cases h) hmore, map_cons_bind_append]
    | some name =>
      by_cases hamp : c = '&'
      · subst hamp
        simp
      · by_cases hsemi : c = ';'
        · subst hsemi
          rw [List.cons_append, resolveFrom?_close, resolveFrom?_close,
            ih none (fun h => by cases h) hmore, Option.bind_assoc]
          simp only [map_cons_bind_append]
        · have hclosed : ';' ∈ run := (List.mem_cons.mp (hname rfl)).resolve_left (Ne.symm hsemi)
          rw [List.cons_append, resolveFrom?_open_of_ne hamp hsemi,
            resolveFrom?_open_of_ne hamp hsemi]
          exact ih (some (c :: name)) (fun _ => hclosed) hmore

theorem outsideReference_of_notMem {run : List Char} (h : '&' ∉ run) : OutsideReference run :=
  fun before after heq => absurd (by rw [heq]; simp) h

theorem OutsideReference.skipSpace {run : List Char} (h : OutsideReference run) :
    OutsideReference (skipSpace run) := by
  intro before after heq
  refine h (run.takeWhile isSpace ++ before) after ?_
  rw [List.append_assoc, ← heq]
  exact List.takeWhile_append_dropWhile.symm

theorem OutsideReference.trimEnd {run : List Char} (h : OutsideReference run) :
    OutsideReference (trimEnd run) := by
  intro before after heq
  have hrun : run = before ++ '&' :: (after ++ run.rtakeWhile isSpace) := by
    rw [← List.cons_append, ← List.append_assoc, ← heq]
    exact List.rdropWhile_append_rtakeWhile.symm
  cases List.mem_append.mp (h before _ hrun) with
  | inl hmem => exact hmem
  | inr hmem => exact absurd (List.mem_rtakeWhile_imp hmem) (by decide)

theorem resolve?_append {run : List Char} (h : OutsideReference run) (cs : List Char) :
    resolve? (run ++ cs) =
      (resolve? run).bind fun before => (resolve? cs).map fun after => before ++ after := by
  unfold resolve?
  rw [resolveFrom?_append none (fun h => by cases h) h]
  cases resolveFrom? none run with
  | none => rfl
  | some before =>
    cases resolveFrom? none cs with
    | none => rfl
    | some after => simp

theorem resolve?_blanks {blanks : List Char} (h : ∀ c ∈ blanks, isSpace c = true)
    (cs : List Char) :
    resolve? (blanks ++ cs) = (resolve? cs).map fun s => String.ofList blanks ++ s := by
  have hchars : resolveFrom? none (blanks ++ cs) =
      (resolveFrom? none cs).map (blanks ++ ·) := by
    induction blanks with
    | nil => simp
    | cons c blanks ih =>
      obtain ⟨hc, hmore⟩ := List.forall_mem_cons.mp h
      have hne : c ≠ '&' := by
        rintro rfl
        cases hc
      rw [List.cons_append, resolveFrom?_of_ne hne, ih hmore]
      cases resolveFrom? none cs <;> rfl
  unfold resolve?
  rw [hchars]
  cases resolveFrom? none cs with
  | none => rfl
  | some text => simp

/-! ## Text of an open element -/

namespace Frame

def addText (f : Frame) (s : String) : Frame := { f with rawText := f.rawText ++ s }

@[simp]
theorem addText_empty (f : Frame) : f.addText "" = f := by
  simp [addText]

@[simp]
theorem addText_addText (f : Frame) (s t : String) :
    (f.addText s).addText t = f.addText (s ++ t) := by
  simp [addText, String.append_assoc]

end Frame

section
variable (f : Frame) (frames : List Frame) (root : Option Element) (more : List Event)

/-- Goes on with a piece of text in the innermost element, unless a reference is malformed. -/
def buildWith (content : Option String) : Except DecodeError Element :=
  match content with
  | none => .error .markup
  | some s => build (f.addText s :: frames) root more

theorem exists_of_buildWith {f : Frame} {frames : List Frame} {root : Option Element}
    {more : List Event} {content : Option String} {tree : Element}
    (h : buildWith f frames root more content = .ok tree) :
    ∃ s, content = some s ∧ build (f.addText s :: frames) root more = .ok tree := by
  cases content with
  | none => cases h
  | some s => exact ⟨s, rfl, h⟩

theorem build_other : build frames root (.other :: more) = build frames root more := by
  rw [build_cons]
  rfl

theorem build_textEvents (run : List Char) :
    build (f :: frames) root (textEvents run ++ more) =
      buildWith f frames root more (resolve? (trimSpace run)) := by
  unfold textEvents
  split
  · rename_i hblank
    have htrim : resolve? (trimSpace run) = some "" := by
      rw [trimSpace_eq, hblank]
      rfl
    rw [htrim, List.nil_append, buildWith, Frame.addText_empty]
  · rw [List.singleton_append, build_cons]
    cases resolve? (trimSpace run) <;> rfl

end

/-! ## How much text a tree holds -/

namespace Element

mutual

def textLength : Element → Nat
  | ⟨_, _, children, rawText⟩ => rawText.length + textLengthOfAll children

def textLengthOfAll : List Element → Nat
  | [] => 0
  | e :: es => textLength e + textLengthOfAll es

end

theorem textLengthOfAll_append (es es' : List Element) :
    textLengthOfAll (es ++ es') = textLengthOfAll es + textLengthOfAll es' := by
  induction es with
  | nil => simp [textLengthOfAll]
  | cons e es ih => rw [List.cons_append, textLengthOfAll, ih, textLengthOfAll, Nat.add_assoc]

theorem textLengthOfAll_reverse (es : List Element) :
    textLengthOfAll es.reverse = textLengthOfAll es := by
  induction es with
  | nil => rfl
  | cons e es ih =>
    rw [List.reverse_cons, textLengthOfAll_append, ih, textLengthOfAll, textLengthOfAll,
      textLengthOfAll, Nat.add_zero, Nat.add_comm]

end Element

open Element

def openTextLength : List Frame → Nat
  | [] => 0
  | f :: frames => f.rawText.length + textLengthOfAll f.children + openTextLength frames

def textLengthOfEvents (level : Nat) : List Event → Nat
  | [] => 0
  | .text (some s) :: events =>
    (if level = 0 then 0 else s.length) + textLengthOfEvents level events
  | event :: events => textLengthOfEvents (event.openAfter level) events

theorem Attached.textLength {e : Element} {frames frames' : List Frame}
    {root root' : Option Element} (h : Attached e frames root frames' root') :
    openTextLength frames' + textLengthOfAll root'.toList =
      e.textLength + (openTextLength frames + textLengthOfAll root.toList) := by
  cases h with
  | child f frames root =>
    simp only [openTextLength, textLengthOfAll]
    omega
  | root => simp [openTextLength, textLengthOfAll]

/-- No text is lost while a tree is built. -/
theorem textLength_of_build {frames : List Frame} {root : Option Element} {events : List Event}
    {tree : Element} (h : build frames root events = .ok tree) :
    tree.textLength = openTextLength frames + textLengthOfAll root.toList +
      textLengthOfEvents frames.length events := by
  refine build_induction (motive := fun frames root events => tree.textLength =
    openTextLength frames + textLengthOfAll root.toList +
      textLengthOfEvents frames.length events) ?_ ?_ h
  · simp [openTextLength, textLengthOfAll, textLengthOfEvents]
  · intro frames root event frames' root' events htaken ih
    rw [ih]
    cases htaken with
    | start room => simp [textLengthOfEvents, openTextLength, Frame.ofTag, textLengthOfAll,
        Event.openAfter]
    | @empty frames frames' root root' tag attached =>
      have htext : (Frame.ofTag tag).close.textLength = 0 := rfl
      rw [attached.textLength, htext, attached.length]
      simp [textLengthOfEvents, Event.openAfter]
    | @finish f frames frames' root root' attached =>
      have htext : f.close.textLength = f.rawText.length + textLengthOfAll f.children := by
        rw [Frame.close, textLength, textLengthOfAll_reverse]
      rw [attached.textLength, htext, attached.length]
      simp only [textLengthOfEvents, openTextLength, Event.openAfter, List.length_cons,
        Nat.add_sub_cancel]
      omega
    | @ignored root content => cases content <;> simp [textLengthOfEvents, Event.openAfter]
    | text =>
      simp only [textLengthOfEvents, openTextLength, List.length_cons, String.length_append]
      simp
      omega
    | other => simp [textLengthOfEvents, Event.openAfter]

/-- A tree shows how much text was added to an element that was open. -/
theorem length_of_addText {f : Frame} {frames : List Frame} {root : Option Element}
    {more : List Event} {s t : String} {tree : Element}
    (hs : build (f.addText s :: frames) root more = .ok tree)
    (ht : build (f.addText t :: frames) root more = .ok tree) : s.length = t.length := by
  have hlength := (textLength_of_build hs).symm.trans (textLength_of_build ht)
  simp only [openTextLength, Frame.addText, String.length_append, List.length_cons] at hlength
  omega

end GeoDrafts.Markup
