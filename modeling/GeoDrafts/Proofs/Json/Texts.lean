import GeoDrafts.Json.Reader
import GeoDrafts.Proofs.Json.Literal
import GeoDrafts.Proofs.Text.Run

/-!
The texts of a JSON document, member names included. A character that is no part of the JSON
grammar stands in a document only where a text does; the one that matters here is `<`, with
which markup begins.
-/

namespace GeoDrafts.Json

namespace Document

mutual

/-- The texts of a document, in the order in which they are written. A text with half of a
surrogate pair is none. -/
def texts : Document → List (Option String)
  | .text s => [s]
  | .array items => textsOfAll items
  | .object members => textsOfMembers members
  | _ => []

def textsOfAll : List Document → List (Option String)
  | [] => []
  | d :: ds => texts d ++ textsOfAll ds

def textsOfMembers : List (Option String × Document) → List (Option String)
  | [] => []
  | (key, d) :: rest => key :: (texts d ++ textsOfMembers rest)

end

theorem mem_textsOfAll_iff {s : Option String} {ds : List Document} :
    s ∈ textsOfAll ds ↔ ∃ d ∈ ds, s ∈ d.texts := by
  induction ds with
  | nil => simp [textsOfAll]
  | cons d ds ih => simp [textsOfAll, ih]

theorem mem_textsOfMembers_iff {s : Option String} {ms : List (Option String × Document)} :
    s ∈ textsOfMembers ms ↔ ∃ m ∈ ms, s = m.1 ∨ s ∈ m.2.texts := by
  induction ms with
  | nil => simp [textsOfMembers]
  | cons m ms ih => simp [textsOfMembers, ih, or_assoc]

end Document

/-- A text with a `<`, or one that cannot be told since half of a pair is missing. -/
def MayHoldTag (s : Option String) : Prop := ∀ t, s = some t → '<' ∈ t.toList

def Document.MayHoldTag (d : Document) : Prop := ∃ s ∈ d.texts, Json.MayHoldTag s

namespace Document

theorem mayHoldTag_array {items : List Document} (h : ∃ d ∈ items, d.MayHoldTag) :
    (array items).MayHoldTag := by
  obtain ⟨d, hd, s, hs, htag⟩ := h
  exact ⟨s, mem_textsOfAll_iff.mpr ⟨d, hd, hs⟩, htag⟩

theorem mayHoldTag_object {members : List (Option String × Document)}
    (h : ∃ m ∈ members, Json.MayHoldTag m.1 ∨ m.2.MayHoldTag) : (object members).MayHoldTag := by
  obtain ⟨m, hm, htag | ⟨s, hs, htag⟩⟩ := h
  · exact ⟨m.1, mem_textsOfMembers_iff.mpr ⟨m, hm, .inl rfl⟩, htag⟩
  · exact ⟨s, mem_textsOfMembers_iff.mpr ⟨m, hm, .inr hs⟩, htag⟩

end Document

/-! ## Outside texts -/

section
variable {cs rest : List Char}

theorem tag_mem_skipSpace (h : '<' ∈ cs) : '<' ∈ skipSpace cs := Text.mem_dropWhile_of_mem rfl h

/-- What is left of a text that holds a `<` after a character that is none. -/
theorem tag_mem_of_skipSpace {c : Char} (h : '<' ∈ cs) (hskip : skipSpace cs = c :: rest)
    (hc : '<' ≠ c) : '<' ∈ rest := by
  have hmem := tag_mem_skipSpace h
  rw [hskip] at hmem
  exact (List.mem_cons.mp hmem).resolve_left hc

theorem tag_mem_spanDigits (h : '<' ∈ cs) : '<' ∈ (Decimal.spanDigits cs).2 := by
  rw [Decimal.spanDigits, List.span_eq_takeWhile_dropWhile]
  exact Text.mem_dropWhile_of_mem rfl h

theorem tag_mem_of_readFraction? {digits : List Char} (h : '<' ∈ cs)
    (hread : readFraction? cs = some (digits, rest)) : '<' ∈ rest := by
  unfold readFraction? at hread
  split at hread
  · rename_i after
    dsimp only at hread
    obtain ⟨-, heq⟩ := Option.ite_none_left_eq_some.mp hread
    cases heq
    exact tag_mem_spanDigits ((List.mem_cons.mp h).resolve_left (by decide))
  · cases hread
    exact h

theorem tag_mem_splitSign (h : '<' ∈ cs) : '<' ∈ (Decimal.splitSign cs).2 := by
  unfold Decimal.splitSign
  split
  · exact (List.mem_cons.mp h).resolve_left (by decide)
  · exact (List.mem_cons.mp h).resolve_left (by decide)
  · exact h

theorem tag_mem_of_readExponentPart? {exponent : Option (Bool × List Char)} (h : '<' ∈ cs)
    (hread : readExponentPart? cs = some (exponent, rest)) : '<' ∈ rest := by
  unfold readExponentPart? at hread
  split at hread
  · rename_i mark after
    split at hread
    · rename_i hmark
      dsimp only at hread
      obtain ⟨-, heq⟩ := Option.ite_none_left_eq_some.mp hread
      cases heq
      have hne : '<' ≠ mark := by
        rintro rfl
        exact absurd hmark (by decide)
      exact tag_mem_spanDigits (tag_mem_splitSign ((List.mem_cons.mp h).resolve_left hne))
    · cases hread
      exact h
  · cases h

theorem tag_mem_of_readUnsigned? {negative : Bool} {l : Literal} (h : '<' ∈ cs)
    (hread : readUnsigned? negative cs = some (l, rest)) : '<' ∈ rest := by
  unfold readUnsigned? at hread
  dsimp only at hread
  obtain ⟨-, hread⟩ := Option.ite_none_left_eq_some.mp hread
  obtain ⟨⟨fraction, cs'⟩, hfraction, hread⟩ := Option.bind_eq_some_iff.mp hread
  obtain ⟨⟨exponent, cs''⟩, hexponent, hread⟩ := Option.bind_eq_some_iff.mp hread
  cases hread
  exact tag_mem_of_readExponentPart?
    (tag_mem_of_readFraction? (tag_mem_spanDigits h) hfraction) hexponent

theorem tag_mem_of_readLiteral? {l : Literal} (h : '<' ∈ cs)
    (hread : readLiteral? cs = some (l, rest)) : '<' ∈ rest := by
  obtain ⟨c, more, rfl⟩ := List.exists_cons_of_ne_nil (List.ne_nil_of_mem h)
  by_cases hc : c = '-'
  · subst hc
    rw [readLiteral?_minus] at hread
    exact tag_mem_of_readUnsigned? ((List.mem_cons.mp h).resolve_left (by decide)) hread
  · rw [readLiteral?_of_ne hc] at hread
    exact tag_mem_of_readUnsigned? h hread

/-! ## Inside texts -/

theorem tag_mem_of_readUnits? {read units : List Nat} (h : '<'.toNat ∈ read ∨ '<' ∈ cs)
    (hread : readUnits? read cs = some (units, rest)) : '<'.toNat ∈ units ∨ '<' ∈ rest := by
  have hne : ∀ {c d : Char} {cs : List Char}, '<' ∈ c :: cs → d = c → '<' ≠ d → '<' ∈ cs := by
    rintro c d cs hmem rfl hc
    exact (List.mem_cons.mp hmem).resolve_left hc
  fun_induction readUnits? read cs with
  | case1 read after =>
    cases hread
    exact h.imp List.mem_reverse.mpr fun hmem => hne hmem rfl (by decide)
  | case2 read a b c d after ih =>
    obtain ⟨a', ha, hread⟩ := Option.bind_eq_some_iff.mp hread
    obtain ⟨b', hb, hread⟩ := Option.bind_eq_some_iff.mp hread
    obtain ⟨c', hc, hread⟩ := Option.bind_eq_some_iff.mp hread
    obtain ⟨d', hd, hread⟩ := Option.bind_eq_some_iff.mp hread
    have hdigit : ∀ {e : Char} {n : Nat}, Text.hexDigit? e = some n → '<' ≠ e := by
      rintro e n he rfl
      have hnone : Text.hexDigit? '<' = none := by decide
      cases hnone.symm.trans he
    refine ih a' b' c' d' ?_ hread
    refine h.imp (List.mem_cons_of_mem _) fun hmem => ?_
    have hunits := hne (hne hmem rfl (by decide)) rfl (by decide)
    exact hne (hne (hne (hne hunits rfl (hdigit ha)) rfl (hdigit hb)) rfl (hdigit hc)) rfl
      (hdigit hd)
  | case3 read c after _ ih =>
    obtain ⟨c', hc, hread⟩ := Option.bind_eq_some_iff.mp hread
    have hescape : '<' ≠ c := by
      rintro rfl
      cases hc
    exact ih c' (h.imp (List.mem_cons_of_mem _) fun hmem =>
      hne (hne hmem rfl (by decide)) rfl hescape) hread
  | case4 read c after => cases hread
  | case5 read c after _ _ _ _ ih =>
    refine ih ?_ hread
    obtain hmem | hmem := h
    · exact .inl (List.mem_cons_of_mem _ hmem)
    · obtain rfl | hmem := List.mem_cons.mp hmem
      · exact .inl List.mem_cons_self
      · exact .inr hmem
  | case6 read => cases hread

theorem tag_mem_of_joinUnits? {units : List Nat} (h : '<'.toNat ∈ units)
    (hjoin : joinUnits? units = some cs) : '<' ∈ cs := by
  have hcode : '<'.toNat = 60 := rfl
  fun_induction joinUnits? units generalizing cs with
  | case1 => cases h
  | case2 unit hunit low after hlow ih =>
    obtain ⟨more, hmore, rfl⟩ := Option.map_eq_some_iff.mp hjoin
    obtain rfl | hmem := List.mem_cons.mp h
    · omega
    · obtain rfl | hmem := List.mem_cons.mp hmem
      · omega
      · exact List.mem_cons_of_mem _ (ih hmem hmore)
  | case3 => cases hjoin
  | case4 => cases hjoin
  | case5 => cases hjoin
  | case6 unit after _ _ ih =>
    obtain ⟨more, hmore, rfl⟩ := Option.map_eq_some_iff.mp hjoin
    obtain rfl | hmem := List.mem_cons.mp h
    · exact List.mem_cons_self
    · exact List.mem_cons_of_mem _ (ih hmem hmore)

theorem tag_mem_of_readText? {s : Option String} (h : '<' ∈ cs)
    (hread : readText? cs = some (s, rest)) : '<' ∈ rest ∨ MayHoldTag s := by
  obtain ⟨⟨units, after⟩, hunits, heq⟩ := Option.map_eq_some_iff.mp hread
  cases heq
  refine (tag_mem_of_readUnits? (.inr h) hunits).symm.imp_right fun hmem t ht => ?_
  obtain ⟨chars, hchars, rfl⟩ := Option.map_eq_some_iff.mp ht
  rw [String.toList_ofList]
  exact tag_mem_of_joinUnits? hmem hchars

end

/-! ## Documents -/

mutual

/-- A `<` in a text that is read is in what is left of it, or in a text of the document. -/
theorem tag_mem_of_readDocument? {fuel : Nat} {cs rest : List Char} {d : Document}
    (h : '<' ∈ cs) (hread : readDocument? fuel cs = some (d, rest)) :
    '<' ∈ rest ∨ d.MayHoldTag := by
  cases fuel with
  | zero => cases hread
  | succ fuel =>
    unfold readDocument? at hread
    split at hread
    · rename_i after hskip
      have hafter := tag_mem_of_skipSpace h hskip (by decide)
      split at hread
      · rename_i hclose
        cases hread
        exact .inl (tag_mem_of_skipSpace hafter hclose (by decide))
      · exact tag_mem_of_readMembers? (.inl (tag_mem_skipSpace hafter)) hread
    · rename_i after hskip
      have hafter := tag_mem_of_skipSpace h hskip (by decide)
      split at hread
      · rename_i hclose
        cases hread
        exact .inl (tag_mem_of_skipSpace hafter hclose (by decide))
      · exact tag_mem_of_readItems? (.inl (tag_mem_skipSpace hafter)) hread
    · rename_i after hskip
      obtain ⟨⟨s, rest'⟩, htext, heq⟩ := Option.map_eq_some_iff.mp hread
      cases heq
      refine (tag_mem_of_readText? (tag_mem_of_skipSpace h hskip (by decide)) htext).imp_right
        fun htag => ⟨s, ?_, htag⟩
      rw [Document.texts]
      exact List.mem_singleton_self s
    · rename_i hskip
      cases hread
      have hafter := tag_mem_of_skipSpace h hskip (by decide)
      exact .inl (by simpa using hafter)
    · rename_i hskip
      cases hread
      have hafter := tag_mem_of_skipSpace h hskip (by decide)
      exact .inl (by simpa using hafter)
    · rename_i hskip
      cases hread
      have hafter := tag_mem_of_skipSpace h hskip (by decide)
      exact .inl (by simpa using hafter)
    · obtain ⟨⟨literal, rest'⟩, hliteral, heq⟩ := Option.map_eq_some_iff.mp hread
      cases heq
      exact .inl (tag_mem_of_readLiteral? (tag_mem_skipSpace h) hliteral)

theorem tag_mem_of_readItems? {fuel : Nat} {read : List Document} {cs rest : List Char}
    {d : Document} (h : '<' ∈ cs ∨ ∃ item ∈ read, item.MayHoldTag)
    (hread : readItems? fuel read cs = some (d, rest)) : '<' ∈ rest ∨ d.MayHoldTag := by
  cases fuel with
  | zero => cases hread
  | succ fuel =>
    unfold readItems? at hread
    split at hread
    · cases hread
    · rename_i item after hitem
      have hitems : '<' ∈ after ∨ ∃ d ∈ item :: read, d.MayHoldTag := by
        obtain hmem | ⟨d, hd, htag⟩ := h
        · exact (tag_mem_of_readDocument? hmem hitem).imp_right
            fun htag => ⟨item, List.mem_cons_self, htag⟩
        · exact .inr ⟨d, List.mem_cons_of_mem _ hd, htag⟩
      split at hread
      · rename_i hskip
        exact tag_mem_of_readItems? (hitems.imp_left fun hmem =>
          tag_mem_of_skipSpace hmem hskip (by decide)) hread
      · rename_i hskip
        cases hread
        refine hitems.imp (fun hmem => tag_mem_of_skipSpace hmem hskip (by decide)) ?_
        rintro ⟨d, hd, htag⟩
        exact Document.mayHoldTag_array ⟨d, List.mem_reverse.mpr hd, htag⟩
      · cases hread

theorem tag_mem_of_readMembers? {fuel : Nat} {read : List (Option String × Document)}
    {cs rest : List Char} {d : Document}
    (h : '<' ∈ cs ∨ ∃ m ∈ read, MayHoldTag m.1 ∨ m.2.MayHoldTag)
    (hread : readMembers? fuel read cs = some (d, rest)) : '<' ∈ rest ∨ d.MayHoldTag := by
  cases fuel with
  | zero => cases hread
  | succ fuel =>
    unfold readMembers? at hread
    split at hread
    · rename_i opened hopen
      split at hread
      · cases hread
      · rename_i key named hkey
        split at hread
        · rename_i colon hcolon
          split at hread
          · cases hread
          · rename_i value after hvalue
            have hmembers : '<' ∈ after ∨
                ∃ m ∈ (key, value) :: read, MayHoldTag m.1 ∨ m.2.MayHoldTag := by
              obtain hmem | ⟨m, hm, htag⟩ := h
              · obtain hmem | htag :=
                  tag_mem_of_readText? (tag_mem_of_skipSpace hmem hopen (by decide)) hkey
                · exact (tag_mem_of_readDocument?
                    (tag_mem_of_skipSpace hmem hcolon (by decide)) hvalue).imp_right
                    fun htag => ⟨(key, value), List.mem_cons_self, .inr htag⟩
                · exact .inr ⟨(key, value), List.mem_cons_self, .inl htag⟩
              · exact .inr ⟨m, List.mem_cons_of_mem _ hm, htag⟩
            split at hread
            · rename_i hskip
              exact tag_mem_of_readMembers? (hmembers.imp_left fun hmem =>
                tag_mem_of_skipSpace hmem hskip (by decide)) hread
            · rename_i hskip
              cases hread
              refine hmembers.imp (fun hmem => tag_mem_of_skipSpace hmem hskip (by decide)) ?_
              rintro ⟨m, hm, htag⟩
              exact Document.mayHoldTag_object ⟨m, List.mem_reverse.mpr hm, htag⟩
            · cases hread
        · cases hread
    · cases hread

end

theorem Document.mayHoldTag_of_read? {text : String} {d : Document}
    (hread : Document.read? text = some d) (h : '<' ∈ text.toList) : d.MayHoldTag := by
  unfold Document.read? at hread
  dsimp only at hread
  split at hread
  · rename_i rest hdocument
    obtain ⟨hrest, heq⟩ := Option.ite_none_right_eq_some.mp hread
    cases heq
    refine (tag_mem_of_readDocument? h hdocument).resolve_left fun hmem => ?_
    have hskip := tag_mem_skipSpace hmem
    rw [hrest] at hskip
    cases hskip
  · cases hread

/-! ## Values -/

namespace Document

mutual

/-- A document that is a value has no text with half of a surrogate pair. -/
theorem isSome_of_value? {s : Option String} (room : Nat) (d : Document) {v : Json}
    (h : d.value? room = some v) (hs : s ∈ d.texts) : s.isSome := by
  cases d with
  | null => cases hs
  | bool b => cases hs
  | number n => cases hs
  | text t =>
    obtain rfl := List.mem_singleton.mp hs
    cases s with
    | none => cases h
    | some s => rfl
  | array items =>
    cases room with
    | zero => cases h
    | succ room =>
      obtain ⟨vs, hvs, -⟩ := Option.map_eq_some_iff.mp h
      exact isSome_of_values? room items hvs hs
  | object members =>
    cases room with
    | zero => cases h
    | succ room =>
      obtain ⟨ms, hms, -⟩ := Option.map_eq_some_iff.mp h
      exact isSome_of_members? room members hms hs

theorem isSome_of_values? {s : Option String} (room : Nat) (ds : List Document) {vs : List Json}
    (h : values? room ds = some vs) (hs : s ∈ textsOfAll ds) : s.isSome := by
  cases ds with
  | nil => cases hs
  | cons d ds =>
    obtain ⟨v, hv, h⟩ := Option.bind_eq_some_iff.mp h
    obtain ⟨vs', hvs, -⟩ := Option.bind_eq_some_iff.mp h
    cases List.mem_append.mp hs with
    | inl hs => exact isSome_of_value? room d hv hs
    | inr hs => exact isSome_of_values? room ds hvs hs

theorem isSome_of_members? {s : Option String} (room : Nat)
    (ms : List (Option String × Document)) {vs : List (String × Json)}
    (h : members? room ms = some vs) (hs : s ∈ textsOfMembers ms) : s.isSome := by
  cases ms with
  | nil => cases hs
  | cons m ms =>
    obtain ⟨key, hkey, h⟩ := Option.bind_eq_some_iff.mp h
    obtain ⟨v, hv, h⟩ := Option.bind_eq_some_iff.mp h
    obtain ⟨vs', hvs, -⟩ := Option.bind_eq_some_iff.mp h
    obtain rfl | hs := List.mem_cons.mp hs
    · simp [hkey]
    · cases List.mem_append.mp hs with
      | inl hs => exact isSome_of_value? room m.2 hv hs
      | inr hs => exact isSome_of_members? room ms hvs hs

end

end Document

/-- Every `<` of a JSON text stands in one of its texts. -/
theorem exists_text_with_tag {text : String} {v : Json} (h : read? text = some v)
    (htag : '<' ∈ text.toList) :
    ∃ d, Document.read? text = some d ∧ ∃ s, some s ∈ d.texts ∧ '<' ∈ s.toList := by
  obtain ⟨d, hread, hvalue⟩ := Option.bind_eq_some_iff.mp h
  obtain ⟨s, hs, hmay⟩ := Document.mayHoldTag_of_read? hread htag
  obtain ⟨t, rfl⟩ := Option.isSome_iff_exists.mp (Document.isSome_of_value? maxDepth d hvalue hs)
  exact ⟨d, hread, t, hs, hmay t rfl⟩

end GeoDrafts.Json
