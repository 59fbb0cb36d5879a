import GeoDrafts.Markup.Element
import GeoDrafts.Proofs.Outcome

/-!
Building the tree of a document. What one event does to the elements that are open is a relation
with a case for each kind of event; a tree is built by steps of that relation.
-/

namespace GeoDrafts.Markup

/-! ## Comparing trees -/

namespace Element

mutual

def decEq : (e e' : Element) → Decidable (e = e')
  | ⟨name, attributes, children, rawText⟩, ⟨name', attributes', children', rawText'⟩ =>
    have : Decidable (children = children') := decEqAll children children'
    decidable_of_iff (name = name' ∧ attributes = attributes' ∧ children = children' ∧
      rawText = rawText') (by rw [mk.injEq])

def decEqAll : (es es' : List Element) → Decidable (es = es')
  | [], [] => .isTrue rfl
  | [], _ :: _ | _ :: _, [] => .isFalse nofun
  | e :: es, e' :: es' =>
    have : Decidable (e = e') := decEq e e'
    have : Decidable (es = es') := decEqAll es es'
    decidable_of_iff (e = e' ∧ es = es') (by rw [List.cons.injEq])

end

instance : DecidableEq Element := decEq

end Element

/-! ## One event -/

/-- A finished element goes into the innermost open one, or else becomes the root. -/
inductive Attached (e : Element) :
    List Frame → Option Element → List Frame → Option Element → Prop
  | child (f : Frame) (frames : List Frame) (root : Option Element) :
    Attached e (f :: frames) root ({ f with children := e :: f.children } :: frames) root
  | root : Attached e [] none [] (some e)

/-- What an event that is taken does to the open elements and the root. -/
inductive Taken : List Frame → Option Element → Event → List Frame → Option Element → Prop
  | start {frames : List Frame} {root : Option Element} {tag : Tag}
    (room : frames.length < maxElementDepth) :
    Taken frames root (.start (.ok tag)) (Frame.ofTag tag :: frames) root
  | empty {frames frames' : List Frame} {root root' : Option Element} {tag : Tag}
    (attached : Attached (Frame.ofTag tag).close frames root frames' root') :
    Taken frames root (.empty (.ok tag)) frames' root'
  | finish {f : Frame} {frames frames' : List Frame} {root root' : Option Element}
    (attached : Attached f.close frames root frames' root') :
    Taken (f :: frames) root .finish frames' root'
  | ignored {root : Option Element} {content : Option String} :
    Taken [] root (.text content) [] root
  | text {f : Frame} {frames : List Frame} {root : Option Element} {s : String} :
    Taken (f :: frames) root (.text (some s)) ({ f with rawText := f.rawText ++ s } :: frames) root
  | other {frames : List Frame} {root : Option Element} : Taken frames root .other frames root

theorem attached_of_attach {e : Element} {frames frames' : List Frame}
    {root root' : Option Element} (h : attach e frames root = .ok (frames', root')) :
    Attached e frames root frames' root' := by
  cases frames with
  | cons f frames =>
    cases h
    exact .child f frames root
  | nil =>
    cases root with
    | none =>
      cases h
      exact .root
    | some other => cases h

theorem taken_of_step {frames frames' : List Frame} {root root' : Option Element} {event : Event}
    (h : step frames root event = .ok (frames', root')) :
    Taken frames root event frames' root' := by
  cases event with
  | start tag =>
    simp only [step] at h
    split at h
    · cases h
    · rename_i hroom
      obtain ⟨tag, rfl, hpair⟩ := exists_of_map h
      cases hpair
      exact .start (Nat.not_le.mp hroom)
  | empty tag =>
    obtain ⟨tag, rfl, hattach⟩ := exists_of_bind h
    exact .empty (attached_of_attach hattach)
  | finish =>
    cases frames with
    | nil => cases h
    | cons f frames => exact .finish (attached_of_attach h)
  | text content =>
    cases frames with
    | nil =>
      cases h
      exact .ignored
    | cons f frames =>
      cases content with
      | none => cases h
      | some s =>
        cases h
        exact .text
  | other =>
    cases h
    exact .other
  | malformed => cases h

/-- A statement about open elements and the events still to come holds if it holds at the end,
where the root is the tree, and every event carries it backwards. -/
theorem build_induction {tree : Element}
    {motive : List Frame → Option Element → List Event → Prop} (done : motive [] (some tree) [])
    (step : ∀ {frames root event frames' root' events}, Taken frames root event frames' root' →
      motive frames' root' events → motive frames root (event :: events))
    {frames : List Frame} {root : Option Element} {events : List Event}
    (h : build frames root events = .ok tree) : motive frames root events := by
  induction events generalizing frames root with
  | nil =>
    cases frames with
    | cons f frames => cases h
    | nil =>
      cases root with
      | none => cases h
      | some e =>
        cases h
        exact done
  | cons event events ih =>
    rw [build] at h
    split at h
    · cases h
    · rename_i frames' root' hstep
      exact step (taken_of_step hstep) (ih h)

/-! ## How many elements are open -/

def Event.openAfter (level : Nat) : Event → Nat
  | .start _ => level + 1
  | .finish => level - 1
  | _ => level

/-- How many elements are open after events from the start of a document. -/
def openAfter (events : List Event) : Nat := events.foldl Event.openAfter 0

theorem Attached.length {e : Element} {frames frames' : List Frame} {root root' : Option Element}
    (h : Attached e frames root frames' root') : frames'.length = frames.length := by
  cases h <;> rfl

theorem Taken.length {frames frames' : List Frame} {root root' : Option Element} {event : Event}
    (h : Taken frames root event frames' root') :
    frames'.length = event.openAfter frames.length := by
  cases h with
  | empty attached => exact attached.length
  | finish attached => exact attached.length
  | _ => rfl

/-! ## Building in two parts -/

/-- Takes events that need not be the last ones. -/
def steps : List Frame → Option Element → List Event →
    Except DecodeError (List Frame × Option Element)
  | frames, root, [] => .ok (frames, root)
  | frames, root, event :: events => do
    let (frames, root) ← step frames root event
    steps frames root events

theorem build_cons (frames : List Frame) (root : Option Element) (event : Event)
    (events : List Event) : build frames root (event :: events) =
      (step frames root event).bind fun (frames, root) => build frames root events := by
  rw [build]
  cases step frames root event <;> rfl

theorem build_append (frames : List Frame) (root : Option Element) (before after : List Event) :
    build frames root (before ++ after) =
      (steps frames root before).bind fun (frames, root) => build frames root after := by
  induction before generalizing frames root with
  | nil => rfl
  | cons event before ih =>
    rw [List.cons_append, build_cons, steps]
    cases hstep : step frames root event with
    | error e => rfl
    | ok reached => exact ih reached.1 reached.2

theorem length_of_steps {frames frames' : List Frame} {root root' : Option Element}
    {events : List Event} (h : steps frames root events = .ok (frames', root')) :
    frames'.length = events.foldl Event.openAfter frames.length := by
  induction events generalizing frames root with
  | nil =>
    cases h
    rfl
  | cons event events ih =>
    obtain ⟨reached, hstep, h⟩ := exists_of_bind h
    rw [List.foldl_cons, ← (taken_of_step hstep).length]
    exact ih h

end GeoDrafts.Markup
