import GeoDrafts.Proofs.Markup.Nesting

/-!
Which events write a tree. An element is written by a start and a finish around its content, or by
one event if it has none. Content is written by its children in order, with pieces of its text
anywhere between them. Comments and the like are ignored everywhere, and so is text outside the
root. What is built from a sequence of events is a tree that its other events write, and every tree
that nests no deeper than the limit is built from all events that write it.
-/

namespace GeoDrafts.Markup

open Element

/-! ## Written forms -/

/-- Events that write children with the text between them, of which there may be any number of
pieces. -/
inductive Content : List Element → String → List Event → Prop
  | nil : Content [] "" []
  | text (s : String) {children : List Element} {rawText : String} {events : List Event}
    (rest : Content children rawText events) :
    Content children (s ++ rawText) (.text (some s) :: events)
  | empty (tag : Tag) {children : List Element} {rawText : String} {events : List Event}
    (rest : Content children rawText events) :
    Content (⟨tag.name, tag.attributes, [], ""⟩ :: children) rawText (.empty (.ok tag) :: events)
  | element (tag : Tag) {inner children : List Element} {innerText rawText : String}
    {innerEvents events : List Event} (content : Content inner innerText innerEvents)
    (rest : Content children rawText events) :
    Content (⟨tag.name, tag.attributes, inner, innerText⟩ :: children) rawText
      (.start (.ok tag) :: (innerEvents ++ .finish :: events))

/-- Events that write one element. -/
inductive Writing : Element → List Event → Prop
  | empty (tag : Tag) : Writing ⟨tag.name, tag.attributes, [], ""⟩ [.empty (.ok tag)]
  | around (tag : Tag) {children : List Element} {rawText : String} {events : List Event}
    (content : Content children rawText events) :
    Writing ⟨tag.name, tag.attributes, children, rawText⟩
      (.start (.ok tag) :: (events ++ [.finish]))

theorem Content.append {children children' : List Element} {rawText rawText' : String}
    {events events' : List Event} (h : Content children rawText events)
    (h' : Content children' rawText' events') :
    Content (children ++ children') (rawText ++ rawText') (events ++ events') := by
  induction h with
  | nil =>
    rw [String.empty_append]
    exact h'
  | text s _ ih =>
    rw [String.append_assoc]
    exact .text s ih
  | empty tag _ ih => exact .empty tag ih
  | element tag content _ _ ih =>
    rw [List.cons_append, List.cons_append, List.append_assoc]
    exact .element tag content ih

theorem Writing.content {e : Element} {events : List Event} (h : Writing e events) :
    Content [e] "" events := by
  cases h with
  | empty tag => exact .empty tag .nil
  | around tag content => exact .element tag content .nil

/-! ## Ignored events -/

/-- Whether an event inside a number of open elements writes nothing of a tree. -/
def Event.isIgnored (level : Nat) : Event → Bool
  | .other => true
  | .text _ => level == 0
  | _ => false

/-- The events that are not ignored, where a number of elements is open before the first one. -/
def significant (level : Nat) : List Event → List Event
  | [] => []
  | event :: events =>
    if event.isIgnored level then significant (event.openAfter level) events
    else event :: significant (event.openAfter level) events

/-- An event that is ignored changes nothing. -/
theorem step_of_isIgnored {frames : List Frame} {event : Event}
    (h : event.isIgnored frames.length = true) (root : Option Element) :
    step frames root event = .ok (frames, root) ∧
      event.openAfter frames.length = frames.length := by
  cases event with
  | other => exact ⟨rfl, rfl⟩
  | text content =>
    obtain rfl : frames = [] := List.length_eq_zero_iff.mp (beq_iff_eq.mp h)
    exact ⟨rfl, rfl⟩
  | _ => cases h

theorem build_significant (frames : List Frame) (root : Option Element) (events : List Event) :
    build frames root (significant frames.length events) = build frames root events := by
  induction events generalizing frames root with
  | nil => rfl
  | cons event events ih =>
    rw [significant]
    split
    · rename_i hignored
      obtain ⟨hstep, hlevel⟩ := step_of_isIgnored hignored root
      rw [hlevel, ih, build_cons, hstep]
      rfl
    · rw [build_cons, build_cons]
      cases hstep : step frames root event with
      | error e => rfl
      | ok reached =>
        obtain ⟨frames', root'⟩ := reached
        rw [← (taken_of_step hstep).length]
        exact ih frames' root'

/-! ## Events that write a tree build it -/

/-- An element that is closed has the content that was added since it was opened. -/
theorem close_of_content (tag : Tag) (children : List Element) (rawText : String) :
    Frame.close ⟨tag, children.reverse ++ [], "" ++ rawText⟩ =
      ⟨tag.name, tag.attributes, children, rawText⟩ := by
  rw [Frame.close, List.append_nil, List.reverse_reverse, String.empty_append]

/-- Where there is room, content is added to the innermost open element. -/
theorem build_content {children : List Element} {rawText : String} {events : List Event}
    (h : Content children rawText events) (f : Frame) {frames : List Frame}
    (hroom : (f :: frames).length + heightOfAll children ≤ maxElementDepth)
    (root : Option Element) (rest : List Event) :
    build (f :: frames) root (events ++ rest) =
      build (⟨f.tag, children.reverse ++ f.children, f.rawText ++ rawText⟩ :: frames) root
        rest := by
  induction h generalizing f frames rest with
  | nil => rw [String.append_empty]; rfl
  | text s _ ih =>
    rw [List.cons_append, build_cons, step, ← String.append_assoc]
    exact ih ⟨f.tag, f.children, f.rawText ++ s⟩ hroom rest
  | empty tag _ ih =>
    rw [heightOfAll] at hroom
    rw [List.cons_append, build_cons, List.reverse_cons, List.append_assoc]
    refine ih ⟨f.tag, (Frame.ofTag tag).close :: f.children, f.rawText⟩ ?_ rest
    simp only [List.length_cons] at hroom ⊢
    omega
  | @element tag inner children innerText rawText innerEvents events _ _ ihinner ih =>
    rw [heightOfAll, height] at hroom
    have hstart : step (f :: frames) root (.start (.ok tag)) =
        .ok (Frame.ofTag tag :: f :: frames, root) := by
      rw [step, if_neg (by omega)]
      rfl
    have hinner :
        (Frame.ofTag tag :: f :: frames).length + heightOfAll inner ≤ maxElementDepth := by
      rw [List.length_cons]
      omega
    have hrest : (f :: frames).length + heightOfAll children ≤ maxElementDepth := by
      omega
    rw [List.cons_append, build_cons, hstart, List.append_assoc]
    change build (Frame.ofTag tag :: f :: frames) root (innerEvents ++ _) = _
    rw [ihinner _ hinner, List.cons_append, build_cons]
    change build (⟨f.tag, Frame.close _ :: f.children, f.rawText⟩ :: frames) root _ = _
    rw [Frame.ofTag, close_of_content, List.reverse_cons, List.append_assoc]
    exact ih ⟨f.tag, _ :: f.children, f.rawText⟩ hrest rest

/-- Where there is room, an element is built and put into its place. -/
theorem build_written {e : Element} {events : List Event} (h : Writing e events)
    {frames : List Frame} (hroom : frames.length + e.height ≤ maxElementDepth)
    (root : Option Element) (rest : List Event) :
    build frames root (events ++ rest) =
      (attach e frames root).bind fun (frames, root) => build frames root rest := by
  cases h with
  | empty tag => exact build_cons frames root _ rest
  | @around tag children rawText events content =>
    rw [height] at hroom
    have hstart : step frames root (.start (.ok tag)) = .ok (Frame.ofTag tag :: frames, root) := by
      rw [step, if_neg (by omega)]
      rfl
    have hinner : (Frame.ofTag tag :: frames).length + heightOfAll children ≤ maxElementDepth := by
      rw [List.length_cons]
      omega
    rw [List.cons_append, build_cons, hstart, List.append_assoc]
    change build (Frame.ofTag tag :: frames) root (events ++ _) = _
    rw [build_content content _ hinner, List.singleton_append, build_cons]
    change (attach (Frame.close _) frames root).bind _ = _
    rw [Frame.ofTag, close_of_content]

/-! ## A tree that is built is written by its events -/

/-- The events so far write the root, or the open elements up to their content so far. An element
may be open after the root. It is refused only when it ends, as nothing is attached there. -/
inductive Opened : List Frame → Option Element → List Event → Prop
  | nothing : Opened [] none []
  | root {e : Element} {events : List Event} (h : Writing e events) : Opened [] (some e) events
  | frame {f : Frame} {frames : List Frame} {root : Option Element} {before events : List Event}
    (outer : Opened frames root before) (content : Content f.children.reverse f.rawText events) :
    Opened (f :: frames) root (before ++ .start (.ok f.tag) :: events)

/-- More content of the innermost open element. -/
theorem Opened.content {f : Frame} {frames : List Frame} {root : Option Element}
    {before : List Event} (h : Opened (f :: frames) root before) {children : List Element}
    {rawText : String} {events : List Event} (hcontent : Content children rawText events) :
    Opened (⟨f.tag, children.reverse ++ f.children, f.rawText ++ rawText⟩ :: frames) root
      (before ++ events) := by
  cases h with
  | @frame _ _ _ outerEvents inner outer content =>
    rw [List.append_assoc, List.cons_append]
    refine .frame (f := ⟨f.tag, _, _⟩) outer ?_
    rw [List.reverse_append, List.reverse_reverse]
    exact content.append hcontent

theorem Opened.attached {e : Element} {frames frames' : List Frame} {root root' : Option Element}
    {before events : List Event} (h : Opened frames root before) (hwriting : Writing e events)
    (hattached : Attached e frames root frames' root') :
    Opened frames' root' (before ++ events) := by
  cases hattached with
  | child f frames root =>
    have hcontent := h.content hwriting.content
    rw [String.append_empty] at hcontent
    exact hcontent
  | root =>
    cases h
    exact .root hwriting

/-- What an event adds that is not ignored. -/
theorem Opened.taken {frames frames' : List Frame} {root root' : Option Element} {event : Event}
    {before : List Event} (h : Opened frames root before)
    (hevent : event.isIgnored frames.length = false)
    (htaken : Taken frames root event frames' root') :
    Opened frames' root' (before ++ [event]) := by
  cases htaken with
  | start room => exact .frame (f := Frame.ofTag _) h .nil
  | empty attached => exact h.attached (.empty _) attached
  | finish attached =>
    cases h with
    | frame outer content =>
      rw [List.append_assoc]
      exact outer.attached (.around _ content) attached
  | ignored => cases hevent
  | @text f frames root s =>
    have hcontent := h.content (.text s .nil)
    rw [String.append_empty] at hcontent
    exact hcontent
  | other => cases hevent

/-- If a tree is built, the events before and the significant ones to come write it. -/
theorem writing_of_build {frames : List Frame} {root : Option Element} {events : List Event}
    {tree : Element} (h : build frames root events = .ok tree) {before : List Event}
    (hopened : Opened frames root before) :
    Writing tree (before ++ significant frames.length events) := by
  -- Induction from the last event backwards: whatever was written before is completed.
  refine build_induction (motive := fun frames root events => ∀ before, Opened frames root before →
    Writing tree (before ++ significant frames.length events)) ?_ ?_ h before hopened
  · intro before hopened
    cases hopened with
    | root hwriting =>
      rw [significant, List.append_nil]
      exact hwriting
  · intro frames root event frames' root' events htaken ih before hopened
    rw [significant, ← htaken.length]
    split
    · rename_i hignored
      have hsame : frames' = frames ∧ root' = root := by
        cases htaken with
        | ignored | other => exact ⟨rfl, rfl⟩
        | _ => cases hignored
      obtain ⟨rfl, rfl⟩ := hsame
      exact ih before hopened
    · rename_i hsignificant
      have hmore := ih _ (hopened.taken (Bool.eq_false_iff.mpr hsignificant) htaken)
      rw [List.append_assoc] at hmore
      exact hmore

/-! ## Main statement -/

/-- **Trees of documents.** The events from which a tree is built write this tree, apart from those
that are ignored. From all events that write a tree within the limit, with ignored events anywhere
among them, this tree is built. -/
theorem built_from_its_events (events : List Event) (root : Element) :
    (build [] none events = .ok root → Writing root (significant 0 events)) ∧
      (root.height ≤ maxElementDepth → Writing root (significant 0 events) →
        build [] none events = .ok root) := by
  constructor
  · intro h
    exact writing_of_build h .nothing
  · intro hheight hwriting
    have hroom : ([] : List Frame).length + root.height ≤ maxElementDepth := by
      rwa [List.length_nil, Nat.zero_add]
    have hbuild := build_written hwriting hroom none []
    rw [List.append_nil] at hbuild
    rw [← build_significant]
    exact hbuild

/-- Text in two pieces around a child, with a comment among them and stray text outside. -/
theorem built_from_its_events_split_text :
    let tag : Tag := ⟨"Folder", [("id", "7")]⟩
    let child : Tag := ⟨"Placemark", []⟩
    let root : Element :=
      ⟨"Folder", [("id", "7")], [⟨"Placemark", [], [], ""⟩], "a" ++ ("b" ++ "")⟩
    let events : List Event := [.other, .text none, .start (.ok tag), .text (some "a"), .other,
      .start (.ok child), .finish, .text (some "b"), .finish, .text (some "c")]
    root.height ≤ maxElementDepth ∧ Writing root (significant 0 events) ∧
      build [] none events = .ok root := by
  intro tag child root events
  have hheight : root.height ≤ maxElementDepth := by decide
  have hwriting : Writing root (significant 0 events) :=
    .around tag (.text "a" (.element child .nil (.text "b" .nil)))
  exact ⟨hheight, hwriting, (built_from_its_events events root).2 hheight hwriting⟩

end GeoDrafts.Markup
