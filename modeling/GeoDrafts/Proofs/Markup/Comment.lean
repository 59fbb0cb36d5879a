import GeoDrafts.Proofs.Format.Coords
import GeoDrafts.Proofs.Markup.Text

/-!
Comments in the character data of an element. The text before a comment and the text after it are
trimmed one by one and then joined, so a comment takes the blanks next to it away, if there is text
on both sides. Nothing else changes.
-/

namespace GeoDrafts.Markup

/-! ## Comments -/

/-- The content of a comment: no two hyphens in a row, and none at the end. -/
inductive CommentText : List Char → Prop
  | nil : CommentText []
  | char {c : Char} {cs : List Char} (hc : c ≠ '-') (more : CommentText cs) : CommentText (c :: cs)
  | hyphen {c : Char} {cs : List Char} (hc : c ≠ '-') (more : CommentText cs) :
    CommentText ('-' :: c :: cs)

def comment (content : List Char) : List Char :=
  '<' :: '!' :: '-' :: '-' :: (content ++ ['-', '-', '>'])

/-- A comment is read to its end: until then, either no hyphen was just read or the comment has only
just begun. -/
theorem splitAfterPair?_comment {content : List Char} (h : CommentText content) {skipped : Nat}
    {read : List Char} (hread : skipped = 2 ∨ skipped ≤ 2 ∧ read.head? ≠ some '-')
    (rest : List Char) :
    splitAfterPair? '-' skipped read (content ++ '-' :: '-' :: '>' :: rest) =
      some (read.reverse ++ content ++ ['-', '-'], rest) := by
  induction h generalizing skipped read with
  | nil =>
    have hskipped : skipped - 1 - 1 = 0 := by omega
    simp [splitAfterPair?, hskipped]
  | @char c cs hc more ih =>
    have hnot : ¬ (c = '>' ∧ skipped = 0 ∧ read.take 2 = ['-', '-']) := by
      rintro ⟨-, rfl, htake⟩
      cases read with
      | nil => cases htake
      | cons d read =>
        obtain rfl : d = '-' := (List.cons.inj htake).1
        simp at hread
    rw [List.cons_append, splitAfterPair?, if_neg hnot, ih (.inr ⟨by omega, by simpa using hc⟩)]
    simp
  | @hyphen c cs hc more ih =>
    have hnot : ¬ (c = '>' ∧ skipped - 1 = 0 ∧ ('-' :: read).take 2 = ['-', '-']) := by
      rintro ⟨-, hskipped, htake⟩
      cases read with
      | nil => cases htake
      | cons d read =>
        cases htake
        simp at hread
        omega
    rw [List.cons_append, List.cons_append, splitAfterPair?, if_neg (by simp), splitAfterPair?,
      if_neg hnot, ih (.inr ⟨by omega, by simpa using hc⟩)]
    simp

theorem readMarkup?_comment {content : List Char} (h : CommentText content)
    (names : List (List Char)) (rest : List Char) :
    readMarkup? names ('!' :: '-' :: '-' :: (content ++ '-' :: '-' :: '>' :: rest)) =
      some (.other, names, rest) := by
  have hsplit : splitAfterPair? '-' 4 [] ('-' :: '-' :: (content ++ '-' :: '-' :: '>' :: rest)) =
      some ('-' :: '-' :: (content ++ ['-', '-']), rest) := by
    rw [splitAfterPair?, if_neg (by simp), splitAfterPair?, if_neg (by simp),
      splitAfterPair?_comment h (.inl rfl)]
    rfl
  rw [readMarkup?, readBang?, hsplit]
  rfl

/-- A comment is an event without content. -/
theorem eventsOf_comment {content : List Char} (h : CommentText content)
    (names : List (List Char)) (rest : List Char) :
    eventsOf names (comment content ++ rest) = .other :: eventsOf names rest := by
  have hcomment : comment content ++ rest =
      '<' :: '!' :: '-' :: '-' :: (content ++ '-' :: '-' :: '>' :: rest) := by
    simp [comment]
  rw [hcomment, eventsOf_markup (readMarkup?_comment h names rest)]

/-- A comment between two pieces of text joins them after they are trimmed. -/
theorem build_comment (f : Frame) (frames : List Frame) (root : Option Element)
    (more : List Event) {run : List Char} (h : OutsideReference run) (tail : List Char) :
    build (f :: frames) root (textEvents run ++ .other :: (textEvents tail ++ more)) =
      buildWith f frames root more (resolve? (trimSpace run ++ trimSpace tail)) := by
  have htrim : OutsideReference (trimSpace run) := h.skipSpace.trimEnd
  rw [build_textEvents, resolve?_append htrim]
  cases resolve? (trimSpace run) with
  | none => rfl
  | some before =>
    rw [buildWith, build_other, build_textEvents, Option.bind_some]
    cases resolve? (trimSpace tail) with
    | none => rfl
    | some after => rw [Option.map_some, buildWith, buildWith, Frame.addText_addText]

/-! ## Reading on from a place -/

theorem Reaches.next {cs markup rest : List Char} {names names' : List (List Char)}
    {event : Event} (h : Reaches cs names ('<' :: markup))
    (hread : readMarkup? names markup = some (event, names', rest)) : Reaches cs names' rest :=
  @Reaches.markup cs names names' [] markup rest event h List.not_mem_nil hread

theorem skipMark_cons_of_ne {c : Char} (h : c ≠ '\uFEFF') (cs : List Char) :
    skipMark (c :: cs) = c :: cs := by
  rw [skipMark]
  exact fun rest heq => h (List.cons.inj heq).1

theorem skipMark_append {before rest used : List Char}
    (h : skipMark (before ++ rest) = used ++ rest) (hused : used ≠ []) (more : List Char) :
    skipMark (before ++ more) = used ++ more := by
  cases before with
  | nil =>
    have hlength : (skipMark rest).length ≤ rest.length := by
      unfold skipMark
      split <;> simp
    have hpos := List.length_pos_iff.mpr hused
    rw [List.nil_append] at h
    rw [h, List.length_append] at hlength
    omega
  | cons c before =>
    by_cases hc : c = '\uFEFF'
    · subst hc
      have hcut : before ++ rest = used ++ rest := h
      rw [← List.append_cancel_right hcut]
      rfl
    · rw [List.cons_append, skipMark_cons_of_ne hc, ← List.cons_append] at h
      rw [List.cons_append, skipMark_cons_of_ne hc, ← List.cons_append, List.append_cancel_right h]

/-- What is read of a text after a place inside an element depends on what was read before only
through the open elements and the root. -/
theorem Reaches.exists_build {before rest : List Char} {names : List (List Char)}
    (h : Reaches (before ++ rest) names rest) (hnames : names ≠ []) (hrest : rest ≠ []) :
    ∃ reached : Except DecodeError (Frame × List Frame × Option Element), ∀ more,
      Element.read (String.ofList (before ++ more)) =
        reached.bind fun (f, frames, root) => build (f :: frames) root (eventsOf names more) := by
  obtain ⟨used, events, hcs, hused, hopen, hevents⟩ := h.exists_prefix hrest
  have hread : ∀ more, Element.read (String.ofList (before ++ more)) =
      build [] none (events ++ eventsOf names more) := by
    intro more
    rw [Element.read, events_ofList, skipMark_append hcs (hused hnames), hevents]
  cases hsteps : steps [] none events with
  | error e => exact ⟨.error e, fun more => by rw [hread, build_append, hsteps]; rfl⟩
  | ok state =>
    obtain ⟨frames, root⟩ := state
    have hlength : frames.length = names.length := (length_of_steps hsteps).trans hopen
    cases frames with
    | nil => exact absurd (List.length_eq_zero_iff.mp hlength.symm) hnames
    | cons f frames =>
      exact ⟨.ok (f, frames, root), fun more => by rw [hread, build_append, hsteps]; rfl⟩

/-! ## Comments between text -/

/-- A document that is read does not end where an element is open. -/
theorem Reaches.rest_ne_nil {cs rest : List Char} {names : List (List Char)}
    (h : Reaches cs names rest) (hnames : names ≠ []) {root : Element}
    (hread : Element.read (String.ofList cs) = .ok root) : rest ≠ [] := by
  rintro rfl
  obtain ⟨before, hopen, hevents⟩ := h.exists_events
  have hend : eventsOf names [] = [] := rfl
  rw [Element.read, events_ofList, hevents, hend, build_append] at hread
  cases hsteps : steps [] none before with
  | error e =>
    rw [hsteps] at hread
    cases hread
  | ok reached =>
    obtain ⟨frames, reachedRoot⟩ := reached
    have hlength : frames.length = names.length := (length_of_steps hsteps).trans hopen
    rw [hsteps] at hread
    cases frames with
    | nil => exact hnames (List.length_eq_zero_iff.mp hlength.symm)
    | cons f frames => cases hread

/-- Two pieces of text as one, without the blanks between them, if neither is blank. -/
def squeezeText (run tail : List Char) : List Char :=
  if skipSpace run = [] ∨ skipSpace tail = [] then run ++ tail else trimEnd run ++ skipSpace tail

/-- What stands around a place, without the blanks next to it, if there is text on both sides. -/
def squeeze (run after : List Char) : List Char :=
  squeezeText run (after.takeWhile (· != '<')) ++ after.dropWhile (· != '<')

theorem trimSpace_squeezeText (run tail : List Char) :
    trimSpace (squeezeText run tail) = trimSpace run ++ trimSpace tail := by
  unfold squeezeText
  split
  · rename_i hblank
    cases hblank with
    | inl hrun => exact trimSpace_append_of_blank_left hrun
    | inr htail => exact trimSpace_append_of_blank_right htail
  · rename_i htext
    rw [not_or] at htext
    exact trimSpace_squeezed htext.1 htext.2

theorem lt_notMem_squeezeText {run tail : List Char} (hrun : '<' ∉ run) (htail : '<' ∉ tail) :
    '<' ∉ squeezeText run tail := by
  have hend : (trimEnd run).Sublist run := (List.rdropWhile_prefix _ _).sublist
  have hskip : (skipSpace tail).Sublist tail := List.dropWhile_sublist _
  unfold squeezeText
  split
  · exact fun h => (List.mem_append.mp h).elim hrun htail
  · exact fun h => (List.mem_append.mp h).elim (fun h => hrun (hend.mem h))
      (fun h => htail (hskip.mem h))

section
variable {before run after content : List Char} {names : List (List Char)}

theorem eventsOf_squeeze (hrun : '<' ∉ run) (names : List (List Char)) :
    eventsOf names (squeeze run after) =
      textEvents (squeezeText run (after.takeWhile (· != '<'))) ++
        eventsOf names (after.dropWhile (· != '<')) :=
  eventsOf_run (lt_notMem_squeezeText hrun (notMem_takeWhile_bne '<' after)) names
    (dropWhile_bne '<' after)

theorem eventsOf_with_comment (hrun : '<' ∉ run) (hcontent : CommentText content)
    (names : List (List Char)) :
    eventsOf names (run ++ (comment content ++ after)) =
      textEvents run ++ .other :: (textEvents (after.takeWhile (· != '<')) ++
        eventsOf names (after.dropWhile (· != '<'))) := by
  have hafter : eventsOf names after = textEvents (after.takeWhile (· != '<')) ++
      eventsOf names (after.dropWhile (· != '<')) := by
    rw [← eventsOf_run (notMem_takeWhile_bne '<' after) names (dropWhile_bne '<' after),
      List.takeWhile_append_dropWhile]
  have hmarkup : comment content ++ after = [] ∨ ∃ rest, comment content ++ after = '<' :: rest :=
    .inr ⟨_, rfl⟩
  rw [eventsOf_run hrun names hmarkup, eventsOf_comment hcontent, hafter]

/-- A document with a comment in the text of an element is read as one without the blanks next to
the comment. -/
theorem read_with_comment (hplace : Reaches (before ++ (run ++ after)) names (run ++ after))
    (hnames : names ≠ []) (hrest : run ++ after ≠ []) (hrun : '<' ∉ run)
    (hreference : OutsideReference run) (hcontent : CommentText content) :
    Element.read (String.ofList (before ++ (run ++ (comment content ++ after)))) =
      Element.read (String.ofList (before ++ squeeze run after)) := by
  obtain ⟨reached, hreached⟩ := hplace.exists_build hnames hrest
  rw [hreached, hreached, eventsOf_with_comment hrun hcontent, eventsOf_squeeze hrun]
  cases reached with
  | error e => rfl
  | ok state =>
    obtain ⟨f, frames, root⟩ := state
    change build (f :: frames) root _ = build (f :: frames) root _
    rw [build_comment _ _ _ _ hreference, build_textEvents, trimSpace_squeezeText]

/-- With text on both sides, what a piece of text stands for is longer than what its two halves
stand for by the blanks between them. -/
theorem length_of_resolve? {tail : List Char} (hrun : skipSpace run ≠ [])
    (htail : skipSpace tail ≠ []) (hreference : OutsideReference run) {s t : String}
    (hs : resolve? (trimSpace (run ++ tail)) = some s)
    (ht : resolve? (trimSpace run ++ trimSpace tail) = some t) :
    s.length =
      t.length + (run.rtakeWhile isSpace).length + (tail.takeWhile isSpace).length := by
  have htrim : OutsideReference (trimSpace run) := hreference.skipSpace.trimEnd
  rw [trimSpace_append hrun htail, skipSpace_eq_trimSpace_append hrun,
    trimEnd_eq_append_trimSpace htail, List.append_assoc, resolve?_append htrim,
    resolve?_blanks (fun c hc => List.mem_rtakeWhile_imp hc),
    resolve?_blanks (List.all_eq_true.mp List.all_takeWhile)] at hs
  rw [resolve?_append htrim] at ht
  obtain ⟨first, hfirst, hs⟩ := Option.bind_eq_some_iff.mp hs
  rw [hfirst, Option.bind_some] at ht
  obtain ⟨last, hlast, rfl⟩ := Option.map_eq_some_iff.mp ht
  rw [hlast] at hs
  cases hs
  simp only [String.length_append, String.length_ofList]
  omega

/-- Squeezing changes nothing just if there are no blanks to remove. -/
theorem squeezeText_eq_iff {tail : List Char} : squeezeText run tail = run ++ tail ↔
    skipSpace run = [] ∨ skipSpace tail = [] ∨
      (run.rtakeWhile isSpace).length + (tail.takeWhile isSpace).length = 0 := by
  by_cases hblank : skipSpace run = [] ∨ skipSpace tail = []
  · rw [squeezeText, if_pos hblank]
    exact ⟨fun _ => hblank.elim .inl fun h => .inr (.inl h), fun _ => rfl⟩
  · have hrun : trimEnd run ++ run.rtakeWhile isSpace = run := List.rdropWhile_append_rtakeWhile
    have htail : tail.takeWhile isSpace ++ skipSpace tail = tail :=
      List.takeWhile_append_dropWhile
    rw [squeezeText, if_neg hblank, ← or_assoc, or_iff_right hblank]
    constructor
    · intro heq
      have hlength := congrArg List.length heq
      rw [List.length_append, List.length_append] at hlength
      have hlengthRun := congrArg List.length hrun
      have hlengthTail := congrArg List.length htail
      rw [List.length_append] at hlengthRun hlengthTail
      omega
    · intro hnone
      rw [List.length_eq_zero_iff.mp (by omega : (run.rtakeWhile isSpace).length = 0),
        List.append_nil] at hrun
      rw [List.length_eq_zero_iff.mp (by omega : (tail.takeWhile isSpace).length = 0),
        List.nil_append] at htail
      rw [hrun, htail]

/-- The tree is the same only if no blanks were removed: it shows how much text there is. -/
theorem squeeze_eq_of_read (hplace : Reaches (before ++ (run ++ after)) names (run ++ after))
    (hnames : names ≠ []) (hrun : '<' ∉ run) (hreference : OutsideReference run)
    (hcontent : CommentText content) {root : Element}
    (hread : Element.read (String.ofList (before ++ (run ++ after))) = .ok root)
    (hsame : Element.read (String.ofList (before ++ (run ++ (comment content ++ after)))) =
      .ok root) :
    squeeze run after = run ++ after := by
  have hafter : after.takeWhile (· != '<') ++ after.dropWhile (· != '<') = after :=
    List.takeWhile_append_dropWhile
  have htext : '<' ∉ run ++ after.takeWhile (· != '<') := fun h =>
    (List.mem_append.mp h).elim hrun (notMem_takeWhile_bne '<' after)
  have hevents : eventsOf names (run ++ after) =
      textEvents (run ++ after.takeWhile (· != '<')) ++
        eventsOf names (after.dropWhile (· != '<')) := by
    rw [← eventsOf_run htext names (dropWhile_bne '<' after), List.append_assoc, hafter]
  obtain ⟨reached, hreached⟩ := hplace.exists_build hnames (hplace.rest_ne_nil hnames hread)
  rw [hreached, hevents] at hread
  rw [hreached, eventsOf_with_comment hrun hcontent] at hsame
  cases reached with
  | error e => cases hread
  | ok state =>
    obtain ⟨f, frames, reachedRoot⟩ := state
    change build (f :: frames) reachedRoot _ = .ok root at hread hsame
    rw [build_textEvents] at hread
    rw [build_comment _ _ _ _ hreference] at hsame
    obtain ⟨s, hs, hread⟩ := exists_of_buildWith hread
    obtain ⟨t, ht, hsame⟩ := exists_of_buildWith hsame
    have hlength := length_of_addText hread hsame
    have hsqueeze : squeezeText run (after.takeWhile (· != '<')) =
        run ++ after.takeWhile (· != '<') := by
      rw [squeezeText_eq_iff, ← or_assoc, or_iff_not_imp_left, not_or]
      rintro ⟨hleft, hright⟩
      have hlonger := length_of_resolve? hleft hright hreference hs ht
      omega
    rw [squeeze, hsqueeze, List.append_assoc, hafter]

/-- **Comments in text.** What is read of a document with a comment in the text of an element is
what is read without the comment and without the blanks next to it, if these have text on both
sides; so the document is read as before just if there are no such blanks. -/
theorem comment_unchanged_iff (hplace : Reaches (before ++ (run ++ after)) names (run ++ after))
    (hnames : names ≠ []) (hrun : '<' ∉ run) (hreference : OutsideReference run)
    (hcontent : CommentText content) {root : Element}
    (hread : Element.read (String.ofList (before ++ (run ++ after))) = .ok root) :
    (∀ format ∈ [PayloadFormat.osmXml, .gpx, .kml],
      format.decode (String.ofList (before ++ (run ++ (comment content ++ after)))) =
        format.decode (String.ofList (before ++ squeeze run after))) ∧
    (Element.read (String.ofList (before ++ (run ++ (comment content ++ after)))) = .ok root ↔
      squeeze run after = run ++ after) := by
  have hrest := hplace.rest_ne_nil hnames hread
  have hcomment := read_with_comment hplace hnames hrest hrun hreference hcontent
  refine ⟨?_, fun hsame => squeeze_eq_of_read hplace hnames hrun hreference hcontent hread hsame,
    fun hsqueeze => by rw [hcomment, hsqueeze, hread]⟩
  intro format hformat
  simp only [List.mem_cons, List.not_mem_nil, or_false] at hformat
  rcases hformat with rfl | rfl | rfl
  · simp only [PayloadFormat.decode, Osm.decode, Element.readNamed, hcomment]
  · simp only [PayloadFormat.decode, Gpx.decode, Element.readNamed, hcomment]
  · simp only [PayloadFormat.decode, Kml.decode, hcomment]

end

def beforeCoordinates : List Char := "<kml><Placemark><LineString><coordinates>".toList

def afterCoordinates : List Char := "</coordinates></LineString></Placemark></kml>".toList

theorem reaches_coordinates (rest : List Char) :
    Reaches (beforeCoordinates ++ rest)
      ["coordinates".toList, "LineString".toList, "Placemark".toList, "kml".toList] rest := by
  have hstart : Reaches (beforeCoordinates ++ rest) [] (beforeCoordinates ++ rest) := .start
  have hkml : Reaches (beforeCoordinates ++ rest) ["kml".toList]
      ("<Placemark><LineString><coordinates>".toList ++ rest) := hstart.next rfl
  have hplacemark : Reaches (beforeCoordinates ++ rest) ["Placemark".toList, "kml".toList]
      ("<LineString><coordinates>".toList ++ rest) := hkml.next rfl
  have hline : Reaches (beforeCoordinates ++ rest)
      ["LineString".toList, "Placemark".toList, "kml".toList]
      ("<coordinates>".toList ++ rest) := hplacemark.next rfl
  exact hline.next rfl

/-- A comment in the middle of a tuple. -/
theorem comment_unchanged_in_tuple :
    let run := "1".toList
    let after := ",2 3,4".toList ++ afterCoordinates
    ∃ root, Element.read (String.ofList (beforeCoordinates ++ (run ++ after))) = .ok root ∧
      Element.read (String.ofList
        (beforeCoordinates ++ (run ++ (comment " c ".toList ++ after)))) = .ok root := by
  intro run after
  have hread : (Element.read
      (String.ofList (beforeCoordinates ++ (run ++ after)))).toOption.isSome := by
    decide +kernel
  cases hroot : Element.read (String.ofList (beforeCoordinates ++ (run ++ after))) with
  | error e =>
    rw [hroot] at hread
    cases hread
  | ok root =>
    have hcontent : CommentText " c ".toList :=
      .char (by decide) (.char (by decide) (.char (by decide) .nil))
    have hreference : OutsideReference run := outsideReference_of_notMem (by decide)
    have hunchanged := comment_unchanged_iff (reaches_coordinates (run ++ after)) (by simp)
      (by decide) hreference hcontent hroot
    exact ⟨root, rfl, hunchanged.2.mpr (by decide +kernel)⟩

/-- A comment between two coordinates makes one of them. -/
theorem comment_merges_coordinates :
    let run := "1,2 ".toList
    let after := " 3,4".toList ++ afterCoordinates
    (PayloadFormat.kml.decode (String.ofList (beforeCoordinates ++ (run ++ after)))).map
        (·.flatMap Feature.coords) = .ok [⟨1, 2⟩, ⟨3, 4⟩] ∧
      (PayloadFormat.kml.decode (String.ofList
        (beforeCoordinates ++ (run ++ (comment " c ".toList ++ after))))).map
        (·.flatMap Feature.coords) = .ok [⟨1, 23⟩] := by
  decide +kernel

end GeoDrafts.Markup
