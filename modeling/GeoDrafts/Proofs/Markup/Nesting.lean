import GeoDrafts.Proofs.Markup.Building

/-!
How deep the elements of a document nest. An element is as deep as the elements that were open
when it started, itself included. The limit of 256 is looked at when an element opens, but not
when an empty one is written in a single tag, so such an element may be one level too deep.
-/

namespace GeoDrafts.Markup

namespace Element

mutual

def height : Element → Nat
  | ⟨_, _, children, _⟩ => heightOfAll children + 1

def heightOfAll : List Element → Nat
  | [] => 0
  | e :: es => max (height e) (heightOfAll es)

end

theorem heightOfAll_append (es es' : List Element) :
    heightOfAll (es ++ es') = max (heightOfAll es) (heightOfAll es') := by
  induction es with
  | nil => simp [heightOfAll]
  | cons e es ih => rw [List.cons_append, heightOfAll, ih, heightOfAll, Nat.max_assoc]

theorem heightOfAll_reverse (es : List Element) : heightOfAll es.reverse = heightOfAll es := by
  induction es with
  | nil => rfl
  | cons e es ih =>
    rw [List.reverse_cons, heightOfAll_append, ih, heightOfAll, heightOfAll, heightOfAll,
      Nat.max_zero, Nat.max_comm]

end Element

open Element

/-! ## Levels -/

/-- The level of the element that an event writes. Other events have none. -/
def Event.level (level : Nat) : Event → Nat
  | .start _ | .empty _ => level + 1
  | _ => 0

/-- The deepest level of the elements that events write inside some open elements. -/
def deepest (level : Nat) : List Event → Nat
  | [] => 0
  | event :: events => max (event.level level) (deepest (event.openAfter level) events)

theorem deepest_le_iff {level n : Nat} {events : List Event} :
    deepest level events ≤ n ↔ ∀ before event after, events = before ++ event :: after →
      event.level (before.foldl Event.openAfter level) ≤ n := by
  induction events generalizing level with
  | nil => simp [deepest]
  | cons event events ih =>
    rw [deepest, Nat.max_le, ih]
    constructor
    · rintro ⟨hfirst, hmore⟩ before event' after heq
      cases before with
      | nil =>
        cases heq
        exact hfirst
      | cons first before =>
        cases heq
        exact hmore before event' after rfl
    · intro hall
      exact ⟨hall [] event events rfl,
        fun before event' after heq => hall (event :: before) event' after (by rw [heq]; rfl)⟩

/-! ## Trees -/

/-- The deepest level of the elements that are open or stand in open ones. -/
def reach : List Frame → Nat
  | [] => 0
  | f :: frames => max (frames.length + 1 + heightOfAll f.children) (reach frames)

theorem Attached.reach {e : Element} {frames frames' : List Frame} {root root' : Option Element}
    (h : Attached e frames root frames' root') :
    max (reach frames') (heightOfAll root'.toList) =
      max (frames.length + e.height) (max (reach frames) (heightOfAll root.toList)) := by
  cases h with
  | child f frames root =>
    simp only [Markup.reach, heightOfAll, List.length_cons]
    omega
  | root => simp [Markup.reach, heightOfAll]

/-- A tree is as high as the deepest of what is there already and what is still to come. -/
theorem height_of_build {frames : List Frame} {root : Option Element} {events : List Event}
    {tree : Element} (h : build frames root events = .ok tree) :
    tree.height = max (max (reach frames) (heightOfAll root.toList))
      (deepest frames.length events) := by
  refine build_induction (motive := fun frames root events => tree.height =
    max (max (reach frames) (heightOfAll root.toList)) (deepest frames.length events)) ?_ ?_ h
  · simp [reach, heightOfAll, deepest]
  · intro frames root event frames' root' events htaken ih
    rw [deepest, ← htaken.length]
    rw [ih]
    cases htaken with
    | start room =>
      simp only [reach, Frame.ofTag, heightOfAll, Event.level]
      omega
    | @empty frames frames' root root' tag attached =>
      have hheight : (Frame.ofTag tag).close.height = 1 := rfl
      rw [attached.reach, hheight]
      simp only [Event.level]
      omega
    | @finish f frames frames' root root' attached =>
      have hheight : f.close.height = heightOfAll f.children + 1 := by
        rw [Frame.close, height, heightOfAll_reverse]
      rw [attached.reach, hheight]
      simp only [reach, Event.level]
      omega
    | ignored => simp [Event.level]
    | text => simp [Event.level, reach]
    | other => simp [Event.level]

/-- A document is as high as its deepest event. -/
theorem height_of_read {text : String} {root : Element} (h : Element.read text = .ok root) :
    root.height = deepest 0 (events text) := by
  rw [height_of_build h]
  simp [reach, heightOfAll]

/-- No more elements are ever open than the limit allows. -/
theorem openAfter_le_of_build {frames : List Frame} {root : Option Element} {events : List Event}
    {tree : Element} (h : build frames root events = .ok tree)
    (hframes : frames.length ≤ maxElementDepth) :
    ∀ before after, events = before ++ after →
      before.foldl Event.openAfter frames.length ≤ maxElementDepth := by
  refine build_induction (motive := fun frames _ events => frames.length ≤ maxElementDepth →
    ∀ before after, events = before ++ after →
      before.foldl Event.openAfter frames.length ≤ maxElementDepth) ?_ ?_ h hframes
  · intro _ before after heq
    obtain ⟨rfl, -⟩ := List.append_eq_nil_iff.mp heq.symm
    exact Nat.zero_le _
  · intro frames root event frames' root' events htaken ih hframes before after heq
    have hframes' : frames'.length ≤ maxElementDepth := by
      rw [htaken.length]
      cases htaken with
      | start room => exact room
      | finish attached => exact Nat.le_trans (Nat.sub_le _ _) hframes
      | _ => exact hframes
    cases before with
    | nil => exact hframes
    | cons first before =>
      cases heq
      rw [List.foldl_cons, ← htaken.length]
      exact ih hframes' before after rfl

/-! ## Documents of any height -/

/-- An element in a single tag inside `n` others. -/
def ladder : Nat → Element
  | 0 => ⟨"a", [], [], ""⟩
  | n + 1 => ⟨"a", [], [ladder n], ""⟩

def ladderText : Nat → List Char
  | 0 => ['<', 'a', '/', '>']
  | n + 1 => '<' :: 'a' :: '>' :: (ladderText n ++ ['<', '/', 'a', '>'])

def ladderEvents : Nat → List Event
  | 0 => [.empty (.ok ⟨"a", []⟩)]
  | n + 1 => .start (.ok ⟨"a", []⟩) :: (ladderEvents n ++ [.finish])

theorem height_ladder (n : Nat) : (ladder n).height = n + 1 := by
  induction n with
  | zero => rfl
  | succ n ih => simp [ladder, height, heightOfAll, ih]

theorem eventsFrom_empty (fuel : Nat) (names : List (List Char)) (cs : List Char) :
    eventsFrom (fuel + 1) names ('<' :: 'a' :: '/' :: '>' :: cs) =
      .empty (.ok ⟨"a", []⟩) :: eventsFrom fuel names cs := rfl

theorem eventsFrom_start (fuel : Nat) (names : List (List Char)) (cs : List Char) :
    eventsFrom (fuel + 1) names ('<' :: 'a' :: '>' :: cs) =
      .start (.ok ⟨"a", []⟩) :: eventsFrom fuel (['a'] :: names) cs := rfl

theorem eventsFrom_finish (fuel : Nat) (names : List (List Char)) (cs : List Char) :
    eventsFrom (fuel + 1) (['a'] :: names) ('<' :: '/' :: 'a' :: '>' :: cs) =
      .finish :: eventsFrom fuel names cs := rfl

theorem eventsFrom_ladderText (n fuel : Nat) (names : List (List Char)) (rest : List Char) :
    eventsFrom (2 * n + 1 + fuel) names (ladderText n ++ rest) =
      ladderEvents n ++ eventsFrom fuel names rest := by
  induction n generalizing fuel names rest with
  | zero => rw [Nat.mul_zero, Nat.zero_add, Nat.add_comm]; exact eventsFrom_empty fuel names rest
  | succ n ih =>
    have hfuel : 2 * (n + 1) + 1 + fuel = 2 * n + 1 + (fuel + 1) + 1 := by omega
    rw [hfuel, ladderText, ladderEvents]
    simp only [List.cons_append, List.append_assoc, List.nil_append]
    rw [eventsFrom_start, ih, eventsFrom_finish]

theorem length_ladderText (n : Nat) : (ladderText n).length = 7 * n + 4 := by
  induction n with
  | zero => rfl
  | succ n ih =>
    simp only [ladderText, List.length_cons, List.length_append, List.length_nil, ih]
    omega

theorem events_ladderText (n : Nat) :
    events (String.ofList (ladderText n)) = ladderEvents n := by
  have hmark : skipMark (ladderText n) = ladderText n := by cases n <;> rfl
  have hfuel : (ladderText n).length + 1 = 2 * n + 1 + (5 * n + 4) := by
    rw [length_ladderText]
    omega
  have hread := eventsFrom_ladderText n (5 * n + 4) [] []
  rw [events, String.toList_ofList, hmark, hfuel]
  rw [List.append_nil] at hread
  rw [hread]
  exact List.append_nil _

/-- Where there is room, a ladder is built as one finished element. -/
theorem build_ladderEvents {n : Nat} (frames : List Frame)
    (hroom : frames.length + n ≤ maxElementDepth) (root : Option Element) (events : List Event) :
    build frames root (ladderEvents n ++ events) =
      (attach (ladder n) frames root).bind fun (frames, root) => build frames root events := by
  induction n generalizing frames root events with
  | zero =>
    have hstep : step frames root (.empty (.ok ⟨"a", []⟩)) = attach (ladder 0) frames root := rfl
    rw [ladderEvents, List.singleton_append, build, hstep]
    cases attach (ladder 0) frames root <;> rfl
  | succ n ih =>
    have hstart : step frames root (.start (.ok ⟨"a", []⟩)) =
        .ok (Frame.ofTag ⟨"a", []⟩ :: frames, root) := by
      rw [step, if_neg (by omega)]
      rfl
    have hinner : (Frame.ofTag ⟨"a", []⟩ :: frames).length + n ≤ maxElementDepth := by
      rw [List.length_cons]
      omega
    rw [ladderEvents, List.cons_append, build, hstart]
    dsimp only
    rw [List.append_assoc, ih _ hinner]
    have hfinish : step (⟨⟨"a", []⟩, [ladder n], ""⟩ :: frames) root .finish =
        attach (ladder (n + 1)) frames root := rfl
    change build (⟨⟨"a", []⟩, [ladder n], ""⟩ :: frames) root (.finish :: events) = _
    rw [build, hfinish]
    cases attach (ladder (n + 1)) frames root <;> rfl

theorem read_ladder {n : Nat} (h : n ≤ maxElementDepth) :
    Element.read (String.ofList (ladderText n)) = .ok (ladder n) := by
  have hbuild := build_ladderEvents [] (by simpa using h) none []
  rw [List.append_nil] at hbuild
  rw [Element.read, events_ladderText, hbuild]
  rfl

/-! ## The limit -/

/-- **Nesting of elements.** A document that is read is at most one level higher than the limit,
and it keeps to the limit just if no empty element in a single tag stands inside as many open
elements as the limit allows. -/
theorem height_within_limit_iff {text : String} {root : Element}
    (h : Element.read text = .ok root) :
    root.height ≤ maxElementDepth + 1 ∧
      (root.height ≤ maxElementDepth ↔ ∀ before tag after,
        events text = before ++ .empty tag :: after → openAfter before < maxElementDepth) := by
  have hopen := openAfter_le_of_build h (Nat.zero_le _)
  have hstart : ∀ before tag after, events text = before ++ .start tag :: after →
      openAfter before + 1 ≤ maxElementDepth := by
    intro before tag after heq
    have hafter := hopen (before ++ [.start tag]) after (by rw [heq, List.append_assoc]; rfl)
    rw [List.foldl_append] at hafter
    exact hafter
  rw [height_of_read h, deepest_le_iff, deepest_le_iff]
  refine ⟨?_, ?_, ?_⟩
  · intro before event after heq
    cases event with
    | start tag => exact Nat.le_succ_of_le (hstart before tag after heq)
    | empty tag => exact Nat.succ_le_succ (hopen before _ heq)
    | _ => exact Nat.zero_le _
  · intro hall before tag after heq
    exact hall before (.empty tag) after heq
  · intro hempty before event after heq
    cases event with
    | start tag => exact hstart before tag after heq
    | empty tag => exact hempty before tag after heq
    | _ => exact Nat.zero_le _

/-- A document of as many levels as the limit allows, with an empty element in a single tag. -/
theorem height_of_ladder_within_limit :
    Element.read (String.ofList (ladderText 255)) = .ok (ladder 255) ∧
      (ladder 255).height ≤ maxElementDepth ∧
      ∀ before tag after, events (String.ofList (ladderText 255)) = before ++ .empty tag :: after →
        openAfter before < maxElementDepth := by
  have hread : Element.read (String.ofList (ladderText 255)) = .ok (ladder 255) :=
    read_ladder (by decide)
  have hheight : (ladder 255).height ≤ maxElementDepth := by
    rw [height_ladder]
    decide
  exact ⟨hread, hheight, (height_within_limit_iff hread).2.mp hheight⟩

/-- At the limit a document is read that is one level too high. -/
theorem read_ladder_too_high :
    ∃ root, Element.read (String.ofList (ladderText 256)) = .ok root ∧
      ¬ root.height ≤ maxElementDepth := by
  refine ⟨ladder 256, read_ladder (Nat.le_refl _), ?_⟩
  rw [height_ladder]
  decide

end GeoDrafts.Markup
