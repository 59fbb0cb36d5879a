import Mathlib.Data.List.DropRight
import GeoDrafts.Proofs.Markup.Building

/-!
Reading a markup text from left to right. What a construct is depends on its own characters alone,
so a text can be cut after every construct: the events before the cut stay the same whatever is put
after it.
-/

namespace GeoDrafts.Markup

/-! ## Single constructs -/

section
variable {α β γ : Type}

/-- What a function gives for the characters of `cs` before `rest`, whatever comes after them. -/
def TakesUpTo (f : List Char → α) (cs rest : List Char) (out : List Char → α) : Prop :=
  ∃ used, used ≠ [] ∧ cs = used ++ rest ∧ ∀ more, f (used ++ more) = out more

/-- What a reader takes of a text depends on nothing after it. -/
def TakesOf (reader : List Char → Option (β × List Char)) (cs : List Char) : Prop :=
  ∀ b rest, reader cs = some (b, rest) → TakesUpTo reader cs rest fun more => some (b, more)

section
variable {f g : List Char → α} {c : Char} {cs rest : List Char} {out : List Char → α}

theorem TakesUpTo.imp {f' : List Char → γ} {out' : List Char → γ} (h : TakesUpTo f cs rest out)
    (himp : ∀ ds more, f ds = out more → f' ds = out' more) : TakesUpTo f' cs rest out' := by
  obtain ⟨used, hne, hcs, htakes⟩ := h
  exact ⟨used, hne, hcs, fun more => himp _ more (htakes more)⟩

/-- One character more is taken if everything after it is left to another function. -/
theorem TakesUpTo.cons (h : TakesUpTo f cs rest out) (heq : ∀ ds, g (c :: ds) = f ds) :
    TakesUpTo g (c :: cs) rest out := by
  obtain ⟨used, -, rfl, htakes⟩ := h
  refine ⟨c :: used, List.cons_ne_nil _ _, rfl, fun more => ?_⟩
  rw [List.cons_append, heq, htakes]

/-- Functions that agree on texts with a certain first character take the same of them. -/
theorem TakesUpTo.congr (h : TakesUpTo f (c :: cs) rest out)
    (heq : ∀ ds, g (c :: ds) = f (c :: ds)) : TakesUpTo g (c :: cs) rest out := by
  obtain ⟨used, hne, hcs, htakes⟩ := h
  cases used with
  | nil => exact absurd rfl hne
  | cons first used =>
    cases hcs
    refine ⟨_, hne, rfl, fun more => ?_⟩
    rw [List.cons_append, heq]
    exact htakes more

end

section
variable {reader reader' : List Char → Option (β × List Char)} {c : Char} {cs : List Char}

theorem takesOf_nil (h : reader [] = none) : TakesOf reader [] := by
  intro b rest hread
  rw [h] at hread
  cases hread

/-- A reader that stops right after the first character takes that one. -/
theorem TakesOf.stop {b : β} (heq : ∀ ds, reader (c :: ds) = some (b, ds)) (cs : List Char) :
    TakesOf reader (c :: cs) := by
  intro b' rest hread
  rw [heq] at hread
  cases hread
  exact ⟨[c], List.cons_ne_nil _ _, rfl, heq⟩

theorem TakesOf.cons (h : TakesOf reader cs) (heq : ∀ ds, reader' (c :: ds) = reader ds) :
    TakesOf reader' (c :: cs) := by
  intro b rest hread
  rw [heq] at hread
  exact (h b rest hread).cons heq

theorem TakesOf.congr (h : TakesOf reader (c :: cs))
    (heq : ∀ ds, reader' (c :: ds) = reader (c :: ds)) : TakesOf reader' (c :: cs) := by
  intro b rest hread
  rw [heq] at hread
  exact (h b rest hread).congr heq

/-- Something is made of what a reader takes. -/
theorem TakesOf.bind (h : TakesOf reader cs) (f : β → Option γ) :
    TakesOf (fun cs => (reader cs).bind fun (b, rest) => (f b).map fun c => (c, rest)) cs := by
  intro c rest hread
  obtain ⟨⟨b, rest'⟩, hb, hread⟩ := Option.bind_eq_some_iff.mp hread
  obtain ⟨c', hc, heq⟩ := Option.map_eq_some_iff.mp hread
  cases heq
  refine (h b rest hb).imp fun ds more hds => ?_
  simp only [hds, Option.bind_some, hc, Option.map_some]

end

end

theorem takesOf_splitTag? (quote : Option Char) (read cs : List Char) :
    TakesOf (splitTag? quote read) cs := by
  induction cs generalizing quote read with
  | nil => exact takesOf_nil rfl
  | cons c cs ih =>
    cases quote with
    | some q =>
      exact (ih (if c = q then none else some q) (c :: read)).cons fun ds => by rw [splitTag?]
    | none =>
      by_cases hend : c = '>'
      · exact .stop (b := read.reverse) (fun ds => by rw [splitTag?, if_pos hend]) cs
      · by_cases hquote : c = '"' ∨ c = '\''
        · exact (ih (some c) (c :: read)).cons fun ds => by
            rw [splitTag?, if_neg hend, if_pos hquote]
        · exact (ih none (c :: read)).cons fun ds => by
            rw [splitTag?, if_neg hend, if_neg hquote]

theorem takesOf_splitAfterPair? (mark : Char) (skipped : Nat) (read cs : List Char) :
    TakesOf (splitAfterPair? mark skipped read) cs := by
  induction cs generalizing skipped read with
  | nil => exact takesOf_nil rfl
  | cons c cs ih =>
    by_cases hend : c = '>' ∧ skipped = 0 ∧ read.take 2 = [mark, mark]
    · exact .stop (b := read.reverse) (fun ds => by rw [splitAfterPair?, if_pos hend]) cs
    · exact (ih (skipped - 1) (c :: read)).cons fun ds => by rw [splitAfterPair?, if_neg hend]

theorem takesOf_splitDeclaration? (depth : Nat) (read cs : List Char) :
    TakesOf (splitDeclaration? depth read) cs := by
  induction cs generalizing depth read with
  | nil => exact takesOf_nil rfl
  | cons c cs ih =>
    by_cases hopen : c = '<'
    · subst hopen
      exact (ih (depth + 1) ('<' :: read)).cons fun ds => rfl
    · by_cases hclose : c = '>'
      · subst hclose
        by_cases hdepth : depth = 0
        · exact .stop (b := read.reverse) (fun ds => by rw [splitDeclaration?, if_pos hdepth]) cs
        · exact (ih (depth - 1) ('>' :: read)).cons fun ds => by
            rw [splitDeclaration?, if_neg hdepth]
      · refine (ih depth (c :: read)).cons fun ds => ?_
        rw [splitDeclaration?]
        · exact hopen
        · exact hclose

def readDeclaration? (cs : List Char) : Option (Event × List Char) := do
  let (content, rest) ← splitDeclaration? 0 [] cs
  let body ← dropWord? "DOCTYPE".toList content
  if skipSpace body = [] then none else some (.other, rest)

theorem takesOf_readDeclaration? (c : Char) (cs : List Char) :
    TakesOf readDeclaration? (c :: cs) := by
  refine ((takesOf_splitDeclaration? 0 [] (c :: cs)).bind fun content =>
    (dropWord? "DOCTYPE".toList content).bind fun body =>
      if skipSpace body = [] then none else some Event.other).congr fun ds => ?_
  rw [readDeclaration?]
  refine Option.bind_congr fun (content, rest) _ => ?_
  dsimp only
  cases dropWord? "DOCTYPE".toList content with
  | none => rfl
  | some body =>
    simp only [Option.bind_eq_bind, Option.bind_some]
    split <;> rfl

theorem takesOf_readBang? (cs : List Char) : TakesOf readBang? cs := by
  intro event rest h
  unfold readBang? at h
  split at h
  · refine ((takesOf_splitAfterPair? '-' 4 [] _).bind fun content =>
      (dropWord? "--".toList content).map fun _ => Event.other).congr (fun ds => ?_) event rest h
    rw [readBang?]
    refine Option.bind_congr fun (content, rest) _ => ?_
    dsimp only
    cases dropWord? "--".toList content <;> rfl
  · refine ((takesOf_splitAfterPair? ']' 0 [] _).bind fun content =>
      (dropWord? "[CDATA[".toList content).map fun text =>
        Event.text (some (String.ofList (text.take (text.length - 2))))).congr
      (fun ds => ?_) event rest h
    rw [readBang?]
    refine Option.bind_congr fun (content, rest) _ => ?_
    dsimp only
    cases dropWord? "[CDATA[".toList content <;> rfl
  · rename_i ds
    have htakes : TakesOf readBang? ('D' :: ds) :=
      (takesOf_readDeclaration? 'D' ds).congr fun ds => rfl
    exact htakes event rest h
  · rename_i ds
    have htakes : TakesOf readBang? ('d' :: ds) :=
      (takesOf_readDeclaration? 'd' ds).congr fun ds => rfl
    exact htakes event rest h
  · cases h

theorem notMem_takeWhile_bne (mark : Char) (cs : List Char) :
    mark ∉ cs.takeWhile (· != mark) := by
  intro hmem
  have hne := List.all_eq_true.mp (List.all_takeWhile (l := cs) (p := (· != mark))) _ hmem
  exact bne_iff_ne.mp hne rfl

theorem dropWhile_bne (mark : Char) (cs : List Char) :
    cs.dropWhile (· != mark) = [] ∨ ∃ rest, cs.dropWhile (· != mark) = mark :: rest := by
  cases hdrop : cs.dropWhile (· != mark) with
  | nil => exact .inl rfl
  | cons c rest =>
    have hc : c = mark := by
      have hhead := List.head_dropWhile_not (· != mark) (l := cs) (by simp [hdrop])
      simpa [hdrop] using hhead
    exact .inr ⟨rest, by rw [hc]⟩

/-- A text is split at its first `>`, if it has one. -/
theorem splitClosing_append {content : List Char} (h : '>' ∉ content) (rest : List Char) :
    splitClosing (content ++ '>' :: rest) = (content, rest) := by
  have hall : ∀ c ∈ content, (c != '>') = true := by
    intro c hc
    rw [bne_iff_ne]
    rintro rfl
    exact h hc
  rw [splitClosing, List.takeWhile_append_of_pos hall, List.dropWhile_append_of_pos hall]
  simp

/-- The characters up to a `>`, if anything comes after it. -/
theorem exists_of_splitClosing {cs content rest : List Char}
    (h : splitClosing cs = (content, rest)) (hrest : rest ≠ []) :
    '>' ∉ content ∧ cs = content ++ '>' :: rest := by
  obtain ⟨rfl, rfl⟩ := Prod.mk.inj h
  refine ⟨notMem_takeWhile_bne '>' cs, ?_⟩
  obtain hnil | ⟨after, hdrop⟩ := dropWhile_bne '>' cs
  · exact absurd (by rw [hnil]; rfl) hrest
  · rw [hdrop, List.drop_one, List.tail_cons, ← hdrop, List.takeWhile_append_dropWhile]

theorem takesUpTo_splitClosing {cs content rest : List Char}
    (h : splitClosing cs = (content, rest)) (hrest : rest ≠ []) :
    TakesUpTo splitClosing cs rest fun more => (content, more) := by
  obtain ⟨hcontent, rfl⟩ := exists_of_splitClosing h hrest
  refine ⟨content ++ ['>'], by simp, by simp, fun more => ?_⟩
  rw [List.append_assoc]
  exact splitClosing_append hcontent more

/-! ## Constructs inside open elements -/

/-- If anything comes after it, what is read depends on its own characters and the names of the
open elements only. -/
def TakesMarkup
    (reader : List (List Char) → List Char → Option (Event × List (List Char) × List Char))
    (names : List (List Char)) (cs : List Char) : Prop :=
  ∀ (event : Event) (names' : List (List Char)) (rest : List Char),
    reader names cs = some (event, names', rest) → rest ≠ [] →
      TakesUpTo (reader names) cs rest fun more => some (event, names', more)

section
variable {reader reader' : List (List Char) → List Char →
  Option (Event × List (List Char) × List Char)} {names : List (List Char)} {c : Char}
  {cs : List Char}

theorem TakesMarkup.cons (h : TakesMarkup reader names cs)
    (heq : ∀ ds, reader' names (c :: ds) = reader names ds) :
    TakesMarkup reader' names (c :: cs) := by
  intro event names' rest hread hrest
  rw [heq] at hread
  exact (h _ _ _ hread hrest).cons heq

theorem TakesMarkup.congr (h : TakesMarkup reader names (c :: cs))
    (heq : ∀ ds, reader' names (c :: ds) = reader names (c :: ds)) :
    TakesMarkup reader' names (c :: cs) := by
  intro event names' rest hread hrest
  rw [heq] at hread
  exact (h _ _ _ hread hrest).congr heq

end

section
variable (names : List (List Char)) (cs : List Char)

theorem takesMarkup_readBang? :
    TakesMarkup (fun names cs => (readBang? cs).map fun r => (r.1, names, r.2)) names cs := by
  intro event names' rest h hrest
  obtain ⟨⟨event', rest'⟩, hbang, heq⟩ := Option.map_eq_some_iff.mp h
  cases heq
  refine (takesOf_readBang? cs _ _ hbang).imp fun ds more hds => ?_
  dsimp only
  rw [hds, Option.map_some]

theorem takesMarkup_readClosing? : TakesMarkup readClosing? names cs := by
  intro event names' rest h hrest
  cases hsplit : splitClosing cs with
  | mk content rest' =>
    unfold readClosing? at h ⊢
    rw [hsplit] at h
    cases names with
    | nil => cases h
    | cons innermost outer =>
      obtain ⟨hname, heq⟩ := Option.ite_none_right_eq_some.mp h
      cases heq
      refine (takesUpTo_splitClosing hsplit hrest).imp fun ds more hds => ?_
      rw [hds]
      exact if_pos hname

theorem takesMarkup_readInstruction? : TakesMarkup readInstruction? names cs := by
  intro event names' rest h hrest
  cases hsplit : splitClosing cs with
  | mk content rest' =>
    unfold readInstruction? at h ⊢
    rw [hsplit] at h
    obtain ⟨hmark, heq⟩ := Option.ite_none_right_eq_some.mp h
    cases heq
    refine (takesUpTo_splitClosing hsplit hrest).imp fun ds more hds => ?_
    rw [hds]
    exact if_pos hmark

theorem takesMarkup_readElement? : TakesMarkup readElement? names cs := by
  intro event names' rest h hrest
  unfold readElement? at h ⊢
  split at h
  · cases h
  · rename_i content rest' htag
    have hrest' : rest' = rest := by split at h <;> cases h <;> rfl
    subst hrest'
    refine (takesOf_splitTag? none [] cs _ _ htag).imp fun ds more hds => ?_
    rw [hds]
    dsimp only
    split at h <;> rename_i hlast
    · cases h
      exact if_pos hlast
    · cases h
      exact if_neg hlast

theorem takesMarkup_readMarkup? : TakesMarkup readMarkup? names cs := by
  cases cs with
  | nil =>
    intro event names' rest h
    cases h
  | cons c cs =>
    by_cases hbang : c = '!'
    · subst hbang
      exact (takesMarkup_readBang? names cs).cons fun ds => rfl
    · by_cases hslash : c = '/'
      · subst hslash
        exact (takesMarkup_readClosing? names cs).cons fun ds => rfl
      · by_cases hquestion : c = '?'
        · subst hquestion
          exact (takesMarkup_readInstruction? names cs).cons fun ds => rfl
        · refine (takesMarkup_readElement? names (c :: cs)).congr fun ds => ?_
          rw [readMarkup?]
          · exact fun rest heq => hbang (List.cons.inj heq).1
          · exact fun rest heq => hslash (List.cons.inj heq).1
          · exact fun rest heq => hquestion (List.cons.inj heq).1

end

theorem length_le_of_readMarkup? {names names' : List (List Char)} {cs rest : List Char}
    {event : Event} (h : readMarkup? names cs = some (event, names', rest)) :
    rest.length ≤ cs.length := by
  by_cases hrest : rest = []
  · simp [hrest]
  · obtain ⟨used, -, rfl, -⟩ := takesMarkup_readMarkup? names cs _ _ _ h hrest
    simp

/-! ## Events of a text -/

theorem skipSpace_append_of_blank {run : List Char} (h : skipSpace run = []) (cs : List Char) :
    skipSpace (run ++ cs) = skipSpace cs := by
  unfold skipSpace at h ⊢
  rw [List.dropWhile_append, h]
  rfl

theorem skipSpace_append_of_ne {run : List Char} (h : skipSpace run ≠ []) (cs : List Char) :
    skipSpace (run ++ cs) = skipSpace run ++ cs := by
  unfold skipSpace at h ⊢
  rw [List.dropWhile_append, if_neg (by simpa using h)]

theorem length_skipSpace_le (cs : List Char) : (skipSpace cs).length ≤ cs.length :=
  (List.dropWhile_sublist _).length_le

section
variable {fuel : Nat} {names : List (List Char)} {cs rest : List Char}

theorem eventsFrom_of_blank (h : skipSpace cs = []) : eventsFrom fuel names cs = [] := by
  cases fuel with
  | zero => rfl
  | succ fuel => rw [eventsFrom, h]

theorem eventsFrom_of_lone (h : skipSpace cs = ['<']) : eventsFrom fuel names cs = [] := by
  cases fuel with
  | zero => rfl
  | succ fuel =>
    rw [eventsFrom, h]
    rfl

theorem eventsFrom_of_markup (h : skipSpace cs = '<' :: rest) (hrest : rest ≠ []) :
    eventsFrom (fuel + 1) names cs =
      match readMarkup? names rest with
      | none => [.malformed]
      | some (event, names, rest) => event :: eventsFrom fuel names rest := by
  rw [eventsFrom, h]
  split
  · contradiction
  · rename_i heq
    exact absurd (List.cons.inj heq).2 hrest
  · rename_i heq
    cases heq
    rfl
  · rename_i hmarkup
    exact absurd rfl (hmarkup rest)

theorem eventsFrom_of_text {c : Char} (h : skipSpace cs = c :: rest) (hc : c ≠ '<') :
    eventsFrom (fuel + 1) names cs =
      .text (resolve? (trimSpace ((c :: rest).takeWhile (· != '<')))) ::
        eventsFrom fuel names ((c :: rest).dropWhile (· != '<')) := by
  rw [eventsFrom, h]
  split
  · contradiction
  · rename_i heq
    exact absurd (List.cons.inj heq).1 hc
  · rename_i heq
    exact absurd (List.cons.inj heq).1 hc
  · rfl

end

theorem eventsFrom_congr {cs cs' : List Char} (h : skipSpace cs = skipSpace cs') (fuel : Nat)
    (names : List (List Char)) : eventsFrom fuel names cs = eventsFrom fuel names cs' := by
  cases fuel with
  | zero => rfl
  | succ fuel => rw [eventsFrom, eventsFrom, h]

/-- More fuel than characters is always enough. -/
theorem eventsFrom_fuel {fuel fuel' : Nat} {names : List (List Char)} {cs : List Char}
    (h : cs.length < fuel) (h' : cs.length < fuel') :
    eventsFrom fuel names cs = eventsFrom fuel' names cs := by
  induction fuel generalizing fuel' names cs with
  | zero => omega
  | succ fuel ih =>
    obtain ⟨fuel', rfl⟩ : ∃ m, fuel' = m + 1 := ⟨fuel' - 1, by omega⟩
    have hskip := length_skipSpace_le cs
    cases hcs : skipSpace cs with
    | nil => rw [eventsFrom_of_blank hcs, eventsFrom_of_blank hcs]
    | cons c rest =>
      rw [hcs, List.length_cons] at hskip
      by_cases hc : c = '<'
      · subst hc
        by_cases hrest : rest = []
        · subst hrest
          rw [eventsFrom_of_lone hcs, eventsFrom_of_lone hcs]
        · rw [eventsFrom_of_markup hcs hrest, eventsFrom_of_markup hcs hrest]
          cases hread : readMarkup? names rest with
          | none => rfl
          | some reading =>
            obtain ⟨event, names', rest'⟩ := reading
            have hlength := length_le_of_readMarkup? hread
            have hfuel : rest'.length < fuel := by omega
            have hfuel' : rest'.length < fuel' := by omega
            dsimp only
            rw [ih hfuel hfuel']
      · have hdrop : ((c :: rest).dropWhile (· != '<')).length ≤ rest.length := by
          rw [List.dropWhile_cons_of_pos (by simpa using hc)]
          exact (List.dropWhile_sublist _).length_le
        have hfuel : ((c :: rest).dropWhile (· != '<')).length < fuel := by omega
        have hfuel' : ((c :: rest).dropWhile (· != '<')).length < fuel' := by omega
        rw [eventsFrom_of_text hcs hc, eventsFrom_of_text hcs hc, ih hfuel hfuel']

def eventsOf (names : List (List Char)) (cs : List Char) : List Event :=
  eventsFrom (cs.length + 1) names cs

theorem eventsFrom_eq_eventsOf {fuel : Nat} {names : List (List Char)} {cs : List Char}
    (h : cs.length < fuel) : eventsFrom fuel names cs = eventsOf names cs :=
  eventsFrom_fuel h (Nat.lt_succ_self _)

def textEvents (run : List Char) : List Event :=
  if skipSpace run = [] then [] else [.text (resolve? (trimSpace run))]

theorem skipSpace_skipSpace (cs : List Char) : skipSpace (skipSpace cs) = skipSpace cs :=
  List.dropWhile_idempotent _ _

theorem trimSpace_skipSpace (cs : List Char) : trimSpace (skipSpace cs) = trimSpace cs := by
  have hskip := skipSpace_skipSpace cs
  unfold skipSpace at hskip ⊢
  rw [trimSpace, trimSpace, Text.trimBy, Text.trimBy, hskip]

theorem eventsOf_markup {names names' : List (List Char)} {cs rest : List Char} {event : Event}
    (h : readMarkup? names cs = some (event, names', rest)) :
    eventsOf names ('<' :: cs) = event :: eventsOf names' rest := by
  have hcs : cs ≠ [] := by
    rintro rfl
    cases h
  have hfuel : rest.length < ('<' :: cs).length := Nat.lt_succ_of_le (length_le_of_readMarkup? h)
  rw [eventsOf, eventsFrom_of_markup rfl hcs, h]
  dsimp only
  rw [eventsFrom_eq_eventsOf hfuel]

/-- The events of a text up to the next markup, or to its end, come first. -/
theorem eventsOf_run {run cs : List Char} (hrun : '<' ∉ run) (names : List (List Char))
    (hcs : cs = [] ∨ ∃ rest, cs = '<' :: rest) :
    eventsOf names (run ++ cs) = textEvents run ++ eventsOf names cs := by
  have hlength : cs.length ≤ (run ++ cs).length := by simp
  unfold textEvents
  split
  · rename_i hblank
    rw [List.nil_append, eventsOf, eventsFrom_congr (skipSpace_append_of_blank hblank cs),
      eventsFrom_eq_eventsOf (by omega)]
  · rename_i htext
    have hskip := skipSpace_append_of_ne htext cs
    have hall : ∀ c ∈ skipSpace run, (c != '<') = true := by
      intro c hc
      rw [bne_iff_ne]
      rintro rfl
      exact hrun ((List.dropWhile_sublist _).mem hc)
    obtain ⟨c, text, hrest⟩ : ∃ c text, skipSpace run = c :: text :=
      List.exists_cons_of_ne_nil htext
    have hc : c ≠ '<' := by
      have hfirst := hall c (by rw [hrest]; exact List.mem_cons_self ..)
      exact bne_iff_ne.mp hfirst
    have htake : (skipSpace run ++ cs).takeWhile (· != '<') = skipSpace run := by
      rw [List.takeWhile_append_of_pos hall]
      obtain rfl | ⟨rest, rfl⟩ := hcs <;> simp
    have hdrop : (skipSpace run ++ cs).dropWhile (· != '<') = cs := by
      rw [List.dropWhile_append_of_pos hall]
      obtain rfl | ⟨rest, rfl⟩ := hcs <;> simp
    have hpos : run ≠ [] := fun hnil => htext (by rw [hnil]; rfl)
    have hlt : cs.length < (run ++ cs).length := by
      have := List.length_pos_iff.mpr hpos
      rw [List.length_append]
      omega
    have htext' : skipSpace (run ++ cs) = c :: (text ++ cs) := by rw [hskip, hrest]; rfl
    rw [eventsOf, eventsFrom_of_text htext' hc, ← List.cons_append, ← hrest, htake, hdrop,
      trimSpace_skipSpace, eventsFrom_eq_eventsOf hlt, List.singleton_append]

theorem events_ofList (cs : List Char) : events (String.ofList cs) = eventsOf [] (skipMark cs) := by
  rw [events, String.toList_ofList, eventsOf]

/-! ## Places in a text -/

theorem openAfter_of_readDeclaration? {cs rest : List Char} {event : Event}
    (h : readDeclaration? cs = some (event, rest)) (level : Nat) :
    event.openAfter level = level := by
  obtain ⟨⟨content, rest'⟩, -, h⟩ := Option.bind_eq_some_iff.mp h
  obtain ⟨body, -, h⟩ := Option.bind_eq_some_iff.mp h
  obtain ⟨-, heq⟩ := Option.ite_none_left_eq_some.mp h
  cases heq
  rfl

/-- A comment, a section of plain text and a declaration open and close nothing. -/
theorem openAfter_of_readBang? {cs rest : List Char} {event : Event}
    (h : readBang? cs = some (event, rest)) (level : Nat) : event.openAfter level = level := by
  unfold readBang? at h
  split at h
  · obtain ⟨⟨content, rest'⟩, -, h⟩ := Option.bind_eq_some_iff.mp h
    obtain ⟨body, -, h⟩ := Option.bind_eq_some_iff.mp h
    cases h
    rfl
  · obtain ⟨⟨content, rest'⟩, -, h⟩ := Option.bind_eq_some_iff.mp h
    obtain ⟨text, -, h⟩ := Option.bind_eq_some_iff.mp h
    cases h
    rfl
  · exact openAfter_of_readDeclaration? h level
  · exact openAfter_of_readDeclaration? h level
  · cases h

/-- The names that the reader holds are those of the elements that its events leave open. -/
theorem length_of_readMarkup? {names names' : List (List Char)} {cs rest : List Char}
    {event : Event} (h : readMarkup? names cs = some (event, names', rest)) :
    names'.length = event.openAfter names.length := by
  unfold readMarkup? at h
  split at h
  · obtain ⟨⟨event', rest'⟩, hbang, heq⟩ := Option.map_eq_some_iff.mp h
    cases heq
    exact (openAfter_of_readBang? hbang _).symm
  · cases names with
    | nil => cases h
    | cons innermost outer =>
      obtain ⟨-, heq⟩ := Option.ite_none_right_eq_some.mp h
      cases heq
      rfl
  · obtain ⟨-, heq⟩ := Option.ite_none_right_eq_some.mp h
    cases heq
    rfl
  · unfold readElement? at h
    split at h
    · cases h
    · split at h <;> cases h <;> rfl

theorem openAfter_textEvents (run : List Char) (level : Nat) :
    (textEvents run).foldl Event.openAfter level = level := by
  unfold textEvents
  split <;> rfl

/-- Reading a text comes to the end of a construct, where some elements are open and the rest is
still to be read. -/
inductive Reaches (cs : List Char) : List (List Char) → List Char → Prop
  | start : Reaches cs [] (skipMark cs)
  | markup {names names' : List (List Char)} {run markup rest : List Char} {event : Event}
    (before : Reaches cs names (run ++ '<' :: markup)) (text : '<' ∉ run)
    (read : readMarkup? names markup = some (event, names', rest)) : Reaches cs names' rest

/-- The events of a text are those before a place that was reached, then those after it. -/
theorem Reaches.exists_events {cs rest : List Char} {names : List (List Char)}
    (h : Reaches cs names rest) : ∃ before, openAfter before = names.length ∧
      eventsOf [] (skipMark cs) = before ++ eventsOf names rest := by
  induction h with
  | start => exact ⟨[], rfl, rfl⟩
  | @markup names names' run markup rest event hbefore htext hread ih =>
    obtain ⟨before, hopen, hevents⟩ := ih
    refine ⟨before ++ (textEvents run ++ [event]), ?_, ?_⟩
    · rw [openAfter] at hopen
      rw [openAfter, List.foldl_append, List.foldl_append, hopen, openAfter_textEvents,
        length_of_readMarkup? hread]
      rfl
    · rw [hevents, eventsOf_run htext names (.inr ⟨_, rfl⟩), eventsOf_markup hread]
      simp

/-- The events before a place are the same, whatever is put in the place of the rest. -/
theorem Reaches.exists_prefix {cs rest : List Char} {names : List (List Char)}
    (h : Reaches cs names rest) (hrest : rest ≠ []) :
    ∃ used before, skipMark cs = used ++ rest ∧ (names ≠ [] → used ≠ []) ∧
      openAfter before = names.length ∧
      ∀ more, eventsOf [] (used ++ more) = before ++ eventsOf names more := by
  induction h with
  | start => exact ⟨[], [], rfl, fun hnames => absurd rfl hnames, rfl, fun more => rfl⟩
  | @markup names names' run markup rest event hbefore htext hread ih =>
    obtain ⟨used, before, hcs, -, hopen, hevents⟩ := ih (by simp)
    obtain ⟨construct, -, rfl, htakes⟩ := takesMarkup_readMarkup? _ _ _ _ _ hread hrest
    refine ⟨used ++ (run ++ '<' :: construct), before ++ (textEvents run ++ [event]),
      ?_, ?_, ?_, ?_⟩
    · rw [hcs]
      simp
    · simp
    · rw [openAfter] at hopen
      rw [openAfter, List.foldl_append, List.foldl_append, hopen, openAfter_textEvents,
        length_of_readMarkup? hread]
      rfl
    · intro more
      rw [List.append_assoc, hevents, List.append_assoc, List.cons_append,
        eventsOf_run htext names (.inr ⟨_, rfl⟩), eventsOf_markup (htakes more)]
      simp

end GeoDrafts.Markup
