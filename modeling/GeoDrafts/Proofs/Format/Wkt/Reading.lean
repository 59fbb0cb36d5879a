import GeoDrafts.Proofs.Format.Wkt.Unambiguity
import GeoDrafts.Proofs.Outcome

/-!
Reading well-known text. Each reader recognizes one kind of sentence: what it reads is the tokens
of a derivation, and it reads the tokens of every derivation. A reader of lists recognizes lists
of what the reader of items recognizes, which carries the result from positions to geometries.
-/

namespace GeoDrafts.Wkt

/-- The tokens without their places. -/
abbrev plain (ts : List Lexeme) : List Token := ts.map (·.token)

variable {α β : Type}

/-- A reader recognizes sentences if it reads one, with the value of that sentence, whenever it
succeeds, and succeeds on each before anything that may follow. -/
structure Recognizes (reader : List Lexeme → Except Stop (α × List Lexeme))
    (write : β → List Token) (value : β → α) (allowed : β → Prop)
    (follow : List Token → Prop) : Prop where
  sound : ∀ ts a rest, reader ts = .ok (a, rest) →
    ∃ b, allowed b ∧ value b = a ∧ plain ts = write b ++ plain rest
  complete : ∀ ts b after, allowed b → follow after → plain ts = write b ++ after →
    ∃ rest, reader ts = .ok (value b, rest) ∧ plain rest = after

/-! ## Parentheses -/

theorem plain_of_readOpen {ts rest : List Lexeme} (h : readOpen ts = .ok rest) :
    plain ts = .opening :: plain rest := by
  unfold readOpen at h
  split at h
  · rw [← Except.ok.inj h]
    rfl
  · cases h

theorem readOpen_of_plain {ts : List Lexeme} {after : List Token}
    (h : plain ts = .opening :: after) : ∃ rest, readOpen ts = .ok rest ∧ plain rest = after := by
  obtain ⟨⟨offset, token⟩, rest, rfl, rfl, hrest⟩ := List.map_eq_cons_iff.mp h
  exact ⟨rest, rfl, hrest⟩

theorem plain_of_readClose {ts rest : List Lexeme} (h : readClose ts = .ok rest) :
    plain ts = .closing :: plain rest := by
  unfold readClose at h
  split at h
  · rw [← Except.ok.inj h]
    rfl
  · cases h

theorem readClose_of_plain {ts : List Lexeme} {after : List Token}
    (h : plain ts = .closing :: after) : ∃ rest, readClose ts = .ok rest ∧ plain rest = after := by
  obtain ⟨⟨offset, token⟩, rest, rfl, rfl, hrest⟩ := List.map_eq_cons_iff.mp h
  exact ⟨rest, rfl, hrest⟩

/-! ## Positions -/

theorem plain_spanNumbers (ts : List Lexeme) :
    plain ts = (spanNumbers ts).1.map .number ++ plain (spanNumbers ts).2 := by
  fun_induction spanNumbers ts with
  | case1 offset x rest ih => exact congrArg (Token.number x :: ·) ih
  | case2 ts h => rfl

theorem spanNumbers_of_plain {ts : List Lexeme} {xs : List Float} {after : List Token}
    (hafter : NoNumber after) (h : plain ts = xs.map .number ++ after) :
    ∃ rest, spanNumbers ts = (xs, rest) ∧ plain rest = after := by
  induction xs generalizing ts with
  | nil =>
    refine ⟨ts, ?_, h⟩
    unfold spanNumbers
    split
    · rename_i offset x rest
      exact absurd h.symm (hafter x _)
    · rfl
  | cons x xs ih =>
    obtain ⟨⟨offset, token⟩, more, rfl, rfl, hmore⟩ := List.map_eq_cons_iff.mp h
    obtain ⟨rest, hspan, hrest⟩ := ih hmore
    exact ⟨rest, by rw [spanNumbers, hspan], hrest⟩

theorem recognizes_readCoord :
    Recognizes readCoord Position.tokens Position.coord (fun _ => True) NoNumber := by
  constructor
  · intro ts c rest h
    have hspan := plain_spanNumbers ts
    unfold readCoord at h
    dsimp only at h
    split at h
    · rename_i x y hnumbers
      cases h
      rw [hnumbers] at hspan
      exact ⟨⟨x, y, [], by simp⟩, trivial, rfl, hspan⟩
    · rename_i x y z hnumbers
      cases h
      rw [hnumbers] at hspan
      exact ⟨⟨x, y, [z], by simp⟩, trivial, rfl, hspan⟩
    · rename_i x y z m hnumbers
      cases h
      rw [hnumbers] at hspan
      exact ⟨⟨x, y, [z, m], by simp⟩, trivial, rfl, hspan⟩
    · cases h
  · rintro ts ⟨x, y, more, hmore⟩ after _ hafter h
    obtain ⟨rest, hspan, hrest⟩ := spanNumbers_of_plain hafter h
    refine ⟨rest, ?_, hrest⟩
    rw [readCoord, hspan]
    match more, hmore with
    | [], _ => rfl
    | [z], _ => rfl
    | [z, m], _ => rfl

/-! ## Lists -/

section Lists

variable {item : List Lexeme → Except Stop (α × List Lexeme)} {write : β → List Token}
  {value : β → α} {allowed : β → Prop} {follow : List Token → Prop}

private theorem readMore_sound (h : Recognizes item write value allowed follow) {fuel : Nat}
    {read values : List α} {ts rest : List Lexeme}
    (hread : readMore item fuel read ts = .ok (values, rest)) :
    ∃ bs : List β, (∀ b ∈ bs, allowed b) ∧ values = read.reverse ++ bs.map value ∧
      plain ts = afterCommas (bs.map write) ++ plain rest := by
  induction fuel generalizing read ts with
  | zero =>
    cases hread
    exact ⟨[], fun _ hb => absurd hb List.not_mem_nil, by simp, rfl⟩
  | succ fuel ih =>
    unfold readMore at hread
    split at hread
    · rename_i fuel' read' offset rest' hfuel
      cases hfuel
      obtain ⟨⟨a, mid⟩, hitem, hmore⟩ := exists_of_bind hread
      obtain ⟨b, hb, rfl, hplain⟩ := h.sound _ _ _ hitem
      obtain ⟨bs, hbs, rfl, hplain'⟩ := ih hmore
      refine ⟨b :: bs, List.forall_mem_cons.mpr ⟨hb, hbs⟩, by simp, ?_⟩
      change Token.comma :: plain rest' = _
      rw [hplain, hplain', List.map_cons, afterCommas, List.cons_append, List.append_assoc]
    · cases hread
      exact ⟨[], fun _ hb => absurd hb List.not_mem_nil, by simp, rfl⟩

private theorem readMore_complete (h : Recognizes item write value allowed follow)
    (hfollow : FollowsItem follow) {bs : List β} (hbs : ∀ b ∈ bs, allowed b) {fuel : Nat}
    (hfuel : bs.length ≤ fuel) {read : List α} {ts : List Lexeme} {after : List Token}
    (hplain : plain ts = afterCommas (bs.map write) ++ .closing :: after) :
    ∃ rest, readMore item fuel read ts = .ok (read.reverse ++ bs.map value, rest) ∧
      plain rest = .closing :: after := by
  induction bs generalizing fuel read ts with
  | nil =>
    obtain ⟨⟨offset, token⟩, rest, rfl, rfl, hrest⟩ := List.map_eq_cons_iff.mp hplain
    refine ⟨_, ?_, hplain⟩
    cases fuel <;> simp [readMore]
  | cons b bs ih =>
    obtain ⟨hb, hbs⟩ := List.forall_mem_cons.mp hbs
    rw [List.map_cons, afterCommas, List.cons_append, List.append_assoc] at hplain
    obtain ⟨⟨offset, token⟩, more, rfl, rfl, hmore⟩ := List.map_eq_cons_iff.mp hplain
    cases fuel with
    | zero => cases hfuel
    | succ fuel =>
      obtain ⟨mid, hitem, hmid⟩ := h.complete more b _ hb (follow_more hfollow _ _) hmore
      obtain ⟨rest, hread, hrest⟩ := ih hbs (Nat.le_of_succ_le_succ hfuel) hmid
      refine ⟨rest, ?_, hrest⟩
      have hvalues : read.reverse ++ (b :: bs).map value =
          (value b :: read).reverse ++ bs.map value := by simp
      rw [readMore, hitem, hvalues]
      exact hread

/-- A reader of items gives a reader of lists of them. -/
theorem Recognizes.readList (h : Recognizes item write value allowed follow)
    (hfollow : FollowsItem follow) :
    Recognizes (readList item) (Row.tokens write) (Row.values value)
      (fun r => ∀ b ∈ r.items, allowed b) (fun _ => True) := by
  constructor
  · intro ts values rest hread
    obtain ⟨ts₁, hopen, hread⟩ := exists_of_bind hread
    obtain ⟨⟨a, ts₂⟩, hfirst, hread⟩ := exists_of_bind hread
    obtain ⟨⟨items, ts₃⟩, hmore, hread⟩ := exists_of_bind hread
    obtain ⟨ts₄, hclose, hread⟩ := exists_of_bind hread
    cases hread
    obtain ⟨b, hb, rfl, hplain⟩ := h.sound _ _ _ hfirst
    obtain ⟨bs, hbs, rfl, hplain'⟩ := readMore_sound h hmore
    refine ⟨⟨b, bs⟩, List.forall_mem_cons.mpr ⟨hb, hbs⟩, rfl, ?_⟩
    rw [plain_of_readOpen hopen, hplain, hplain', plain_of_readClose hclose, Row.tokens,
      enclose_append]
  · rintro ts ⟨b, bs⟩ after hallowed _ hplain
    obtain ⟨hb, hbs⟩ := List.forall_mem_cons.mp hallowed
    rw [Row.tokens, enclose_append] at hplain
    obtain ⟨ts₁, hopen, hplain⟩ := readOpen_of_plain hplain
    obtain ⟨ts₂, hfirst, hplain⟩ := h.complete ts₁ b _ hb (follow_more hfollow _ _) hplain
    have hfuel : bs.length ≤ ts₂.length := by
      have hcommas := length_le_afterCommas (bs.map write)
      have hlen := congrArg List.length hplain
      simp only [List.length_map, List.length_append] at hcommas hlen
      omega
    obtain ⟨ts₃, hmore, hplain⟩ :
        ∃ ts₃, readMore item ts₂.length [value b] ts₂ = .ok (_, ts₃) ∧ _ :=
      readMore_complete h hfollow hbs hfuel hplain
    obtain ⟨rest, hclose, hrest⟩ := readClose_of_plain hplain
    refine ⟨rest, ?_, hrest⟩
    simp only [Wkt.readList, bind, Except.bind, hopen, hfirst, hmore, hclose]
    rfl

end Lists

theorem recognizes_readLine :
    Recognizes readLine (Row.tokens Position.tokens) (Row.values Position.coord)
      (fun _ => True) (fun _ => True) := by
  have hlist := recognizes_readCoord.readList followsItem_noNumber
  simp only [implies_true] at hlist
  exact hlist

theorem recognizes_readLines :
    Recognizes readLines (Row.tokens (Row.tokens Position.tokens))
      (Row.values (Row.values Position.coord)) (fun _ => True) (fun _ => True) := by
  have hlist := recognizes_readLine.readList followsItem_true
  simp only [implies_true] at hlist
  exact hlist

theorem recognizes_readEnclosed :
    Recognizes readEnclosed (fun p => enclose (Position.tokens p) []) Position.coord
      (fun _ => True) (fun _ => True) := by
  constructor
  · intro ts c rest hread
    obtain ⟨ts₁, hopen, hread⟩ := exists_of_bind hread
    obtain ⟨⟨c, ts₂⟩, hcoord, hread⟩ := exists_of_bind hread
    obtain ⟨ts₃, hclose, hread⟩ := exists_of_bind hread
    cases hread
    obtain ⟨p, _, rfl, hplain⟩ := recognizes_readCoord.sound _ _ _ hcoord
    refine ⟨p, trivial, rfl, ?_⟩
    rw [plain_of_readOpen hopen, hplain, plain_of_readClose hclose, enclose_append]
    rfl
  · intro ts p after _ _ hplain
    rw [enclose_append] at hplain
    obtain ⟨ts₁, hopen, hplain⟩ := readOpen_of_plain hplain
    obtain ⟨ts₂, hcoord, hplain⟩ := recognizes_readCoord.complete ts₁ p _ trivial
      (followsItem_noNumber after).2 hplain
    obtain ⟨rest, hclose, hrest⟩ := readClose_of_plain hplain
    refine ⟨rest, ?_, hrest⟩
    simp only [readEnclosed, bind, Except.bind, hopen, hcoord, hclose]

theorem recognizes_readListedPoint :
    Recognizes readListedPoint ListedPoint.tokens ListedPoint.coord (fun _ => True) NoNumber := by
  constructor
  · intro ts c rest hread
    unfold readListedPoint at hread
    split at hread
    · obtain ⟨p, _, hvalue, hplain⟩ := recognizes_readEnclosed.sound _ _ _ hread
      exact ⟨.enclosed p, trivial, hvalue, hplain⟩
    · obtain ⟨p, _, hvalue, hplain⟩ := recognizes_readCoord.sound _ _ _ hread
      exact ⟨.bare p, trivial, hvalue, hplain⟩
  · intro ts p after _ hafter hplain
    cases p with
    | bare p =>
      obtain ⟨rest, hread, hrest⟩ := recognizes_readCoord.complete ts p after trivial hafter hplain
      obtain ⟨⟨offset, token⟩, more, rfl, rfl, hmore⟩ := List.map_eq_cons_iff.mp hplain
      exact ⟨rest, hread, hrest⟩
    | enclosed p =>
      obtain ⟨rest, hread, hrest⟩ :=
        recognizes_readEnclosed.complete ts p after trivial trivial hplain
      obtain ⟨⟨offset, token⟩, more, rfl, rfl, hmore⟩ := List.map_eq_cons_iff.mp hplain
      exact ⟨rest, hread, hrest⟩

/-! ## Bodies -/

def readBody (reader : List Lexeme → Except Stop (α × List Lexeme)) (blank : α)
    (ts : List Lexeme) : Except Stop (α × List Lexeme) :=
  match afterEmpty? ts with
  | some rest => .ok (blank, rest)
  | none => reader ts

theorem plain_of_afterEmpty? {ts rest : List Lexeme} (h : afterEmpty? ts = some rest) :
    plain ts = .word "EMPTY" :: plain rest := by
  unfold afterEmpty? at h
  split at h
  · split at h
    · rename_i hword
      cases h
      rw [hword]
      rfl
    · cases h
  · cases h

theorem afterEmpty?_of_plain {ts : List Lexeme} {after : List Token}
    (h : plain ts = .word "EMPTY" :: after) :
    ∃ rest, afterEmpty? ts = some rest ∧ plain rest = after := by
  obtain ⟨⟨offset, token⟩, rest, rfl, rfl, hrest⟩ := List.map_eq_cons_iff.mp h
  exact ⟨rest, by simp [afterEmpty?], hrest⟩

theorem afterEmpty?_of_opening {ts : List Lexeme} {after : List Token}
    (h : plain ts = .opening :: after) : afterEmpty? ts = none := by
  obtain ⟨⟨offset, token⟩, rest, rfl, rfl, hrest⟩ := List.map_eq_cons_iff.mp h
  rfl

/-- A reader of lists also gives a reader of bodies. -/
theorem Recognizes.body {reader : List Lexeme → Except Stop (List α × List Lexeme)}
    {write : β → List Token} {value : β → α} {allowed : β → Prop}
    (h : Recognizes reader (Row.tokens write) (Row.values value)
      (fun r => ∀ b ∈ r.items, allowed b) (fun _ => True)) :
    Recognizes (readBody reader []) (fun bs => bodyTokens (bs.map write)) (List.map value)
      (fun bs => ∀ b ∈ bs, allowed b) (fun _ => True) := by
  constructor
  · intro ts values rest hread
    unfold readBody at hread
    split at hread
    · rename_i hempty
      cases hread
      exact ⟨[], fun _ hb => absurd hb List.not_mem_nil, rfl, plain_of_afterEmpty? hempty⟩
    · obtain ⟨r, hallowed, hvalues, hplain⟩ := h.sound _ _ _ hread
      exact ⟨r.items, hallowed, hvalues, hplain⟩
  · intro ts bs after hallowed _ hplain
    cases bs with
    | nil =>
      obtain ⟨rest, hempty, hrest⟩ := afterEmpty?_of_plain hplain
      exact ⟨rest, by rw [readBody, hempty]; rfl, hrest⟩
    | cons b bs =>
      obtain ⟨rest, hread, hrest⟩ := h.complete ts ⟨b, bs⟩ after hallowed trivial hplain
      exact ⟨rest, by rw [readBody, afterEmpty?_of_opening hplain]; exact hread, hrest⟩

def readPoint (ts : List Lexeme) : Except Stop (Option Coord × List Lexeme) :=
  readBody (fun ts => (readEnclosed ts).map fun (c, rest) => (some c, rest)) none ts

theorem recognizes_readPoint :
    Recognizes readPoint (fun p : Option Position => bodyTokens (p.toList.map Position.tokens))
      (Option.map Position.coord) (fun _ => True) (fun _ => True) := by
  constructor
  · intro ts c rest hread
    unfold readPoint readBody at hread
    split at hread
    · rename_i hempty
      cases hread
      exact ⟨none, trivial, rfl, plain_of_afterEmpty? hempty⟩
    · dsimp only at hread
      cases henclosed : readEnclosed ts with
      | error e =>
        rw [henclosed] at hread
        cases hread
      | ok read =>
        rw [henclosed] at hread
        cases hread
        obtain ⟨p, _, hvalue, hplain⟩ := recognizes_readEnclosed.sound _ _ _ henclosed
        exact ⟨some p, trivial, congrArg some hvalue, hplain⟩
  · intro ts p after _ _ hplain
    cases p with
    | none =>
      obtain ⟨rest, hempty, hrest⟩ := afterEmpty?_of_plain hplain
      exact ⟨rest, by rw [readPoint, readBody, hempty]; rfl, hrest⟩
    | some p =>
      obtain ⟨rest, hread, hrest⟩ :=
        recognizes_readEnclosed.complete ts p after trivial trivial hplain
      refine ⟨rest, ?_, hrest⟩
      rw [readPoint, readBody, afterEmpty?_of_opening hplain]
      dsimp only
      rw [hread]
      rfl

/-! ## What stands after a heading -/

/-- What is read under a function is recognized as what is written under another one. -/
theorem Recognizes.map {γ δ : Type} {reader : List Lexeme → Except Stop (α × List Lexeme)}
    {write : β → List Token} {value : β → α} {allowed : β → Prop} {follow : List Token → Prop}
    (h : Recognizes reader write value allowed follow) (F : α → δ) (f : β → γ)
    {write' : γ → List Token} {value' : γ → δ} {allowed' : γ → Prop}
    (hwrite : ∀ b, write' (f b) = write b) (hvalue : ∀ b, value' (f b) = F (value b))
    (hallowed : ∀ c, allowed' c ↔ ∃ b, allowed b ∧ f b = c) :
    Recognizes (fun ts => (reader ts).map fun (a, rest) => (F a, rest)) write' value' allowed'
      follow := by
  constructor
  · intro ts d rest hread
    dsimp only at hread
    cases hreader : reader ts with
    | error e =>
      rw [hreader] at hread
      cases hread
    | ok read =>
      rw [hreader] at hread
      cases hread
      obtain ⟨b, hb, hval, hplain⟩ := h.sound _ _ _ hreader
      exact ⟨f b, (hallowed _).mpr ⟨b, hb, rfl⟩, by rw [hvalue, hval], by rw [hwrite, hplain]⟩
  · intro ts c after hc hafter hplain
    obtain ⟨b, hb, rfl⟩ := (hallowed c).mp hc
    rw [hwrite] at hplain
    obtain ⟨rest, hread, hrest⟩ := h.complete ts b after hb hafter hplain
    refine ⟨rest, ?_, hrest⟩
    dsimp only
    rw [hread, hvalue]
    rfl

def readChildren : Nat → List Lexeme → Except Stop (List (Option Geometry) × List Lexeme)
  | 0, ts => .error ⟨ts, .tooDeep⟩
  | room + 1, ts => readList (readGeometry room) ts

def readAfterHeading (room : Nat) (kind : GeometryKind) (ts : List Lexeme) :
    Except Stop (Option Geometry × List Lexeme) :=
  match kind with
  | .point => (readPoint ts).map fun (c, rest) => (c.map .point, rest)
  | .multiPoint => build .multiPoint (readBody (readList readListedPoint) [] ts)
  | .lineString => build .lineString (readBody readLine [] ts)
  | .linearRing => build .linearRing (readBody readLine [] ts)
  | .multiLineString => build .multiLineString (readBody readLines [] ts)
  | .polygon => build .polygon (readBody readLines [] ts)
  | .multiPolygon => build .multiPolygon (readBody (readList readLines) [] ts)
  | .geometryCollection =>
    build (fun children => .collection (children.filterMap id)) (readBody (readChildren room) [] ts)

theorem readAfterHeading_empty {ts rest : List Lexeme} (h : afterEmpty? ts = some rest)
    (room : Nat) (kind : GeometryKind) :
    readAfterHeading room kind ts = .ok (emptyOf kind, rest) := by
  cases kind <;> simp only [readAfterHeading, readPoint, readBody, h] <;> rfl

theorem readGeometry_word {word : String} {kind : GeometryKind}
    (hkind : kindOfWord? word = some kind) (room offset : Nat) (more : List Lexeme)
    (result : Option Geometry × List Lexeme) :
    readGeometry room (⟨offset, .word word⟩ :: more) = .ok result ↔
      readAfterHeading room kind (skipDimensions more) = .ok result := by
  unfold readGeometry
  dsimp only
  rw [hkind]
  dsimp only
  cases hempty : afterEmpty? (skipDimensions more) with
  | some rest => rw [readAfterHeading_empty hempty]
  | none =>
    cases kind with
    | point =>
      simp only [readAfterHeading, readPoint, readBody, hempty]
      cases readEnclosed (skipDimensions more) <;> exact Iff.rfl
    | geometryCollection =>
      simp only [readAfterHeading, readBody, hempty]
      cases room with
      | zero => constructor <;> intro h <;> cases h
      | succ room => exact Iff.rfl
    | _ =>
      simp only [readAfterHeading, readBody, hempty]

theorem readGeometry_eq_ok_iff {room : Nat} {ts : List Lexeme}
    {result : Option Geometry × List Lexeme} :
    readGeometry room ts = .ok result ↔
      ∃ offset word kind more, ts = ⟨offset, .word word⟩ :: more ∧
        kindOfWord? word = some kind ∧
        readAfterHeading room kind (skipDimensions more) = .ok result := by
  constructor
  · intro h
    match ts with
    | ⟨offset, .word word⟩ :: more =>
      cases hkind : kindOfWord? word with
      | none =>
        unfold readGeometry at h
        dsimp only at h
        rw [hkind] at h
        cases h
      | some kind =>
        exact ⟨offset, word, kind, more, rfl, hkind, (readGeometry_word hkind _ _ _ _).mp h⟩
    | [] => unfold readGeometry at h; cases h
    | ⟨_, .number _⟩ :: _ => unfold readGeometry at h; cases h
    | ⟨_, .opening⟩ :: _ => unfold readGeometry at h; cases h
    | ⟨_, .closing⟩ :: _ => unfold readGeometry at h; cases h
    | ⟨_, .comma⟩ :: _ => unfold readGeometry at h; cases h
  · rintro ⟨offset, word, kind, more, rfl, hkind, h⟩
    exact (readGeometry_word hkind _ _ _ _).mpr h

/-! ## Headings -/

theorem plain_skipDimensions (ts : List Lexeme) :
    ∃ d : Dimensions, plain ts = d.words ++ plain (skipDimensions ts) := by
  unfold skipDimensions
  split
  · rename_i offset word rest
    split
    · rename_i hword
      simp only [dimensionWords, List.mem_cons, List.not_mem_nil, or_false] at hword
      rcases hword with rfl | rfl | rfl
      · exact ⟨.z, rfl⟩
      · exact ⟨.m, rfl⟩
      · exact ⟨.zm, rfl⟩
    · exact ⟨.unsaid, rfl⟩
  · exact ⟨.unsaid, rfl⟩

theorem skipDimensions_of_plain {ts : List Lexeme} {d : Dimensions} {after : List Token}
    (hafter : StartsBody after) (h : plain ts = d.words ++ after) :
    plain (skipDimensions ts) = after := by
  have hword : ∀ word : String, word ∈ dimensionWords → plain ts = .word word :: after →
      plain (skipDimensions ts) = after := by
    intro word hmem hplain
    obtain ⟨⟨offset, token⟩, rest, rfl, rfl, hrest⟩ := List.map_eq_cons_iff.mp hplain
    simp only [skipDimensions, if_pos hmem]
    exact hrest
  cases d with
  | unsaid =>
    rcases hafter with ⟨rest, rfl⟩ | ⟨rest, rfl⟩
    · obtain ⟨⟨offset, token⟩, more, rfl, rfl, hmore⟩ := List.map_eq_cons_iff.mp h
      simp only [skipDimensions, if_neg (show "EMPTY" ∉ dimensionWords by decide)]
      exact h
    · obtain ⟨⟨offset, token⟩, more, rfl, rfl, hmore⟩ := List.map_eq_cons_iff.mp h
      exact h
  | z => exact hword "Z" (by decide) h
  | m => exact hword "M" (by decide) h
  | zm => exact hword "ZM" (by decide) h

/-- The tokens before what is read after a heading are a heading. -/
theorem exists_heading {word : String} {kind : GeometryKind}
    (hkind : kindOfWord? word = some kind) (offset : Nat) (more : List Lexeme) :
    ∃ heading : Heading, plain (⟨offset, .word word⟩ :: more) =
      heading.tokens kind ++ plain (skipDimensions more) := by
  obtain ⟨glued, rfl⟩ := kindOfWord?_eq_some_iff.mp hkind
  obtain ⟨separate, hmore⟩ := plain_skipDimensions more
  exact ⟨⟨glued, separate⟩, congrArg (Token.word _ :: ·) hmore⟩

/-- A geometry is read if what stands after its heading is. -/
theorem readGeometry_of_heading {ts : List Lexeme} {kind : GeometryKind} {heading : Heading}
    {after : List Token} (hafter : StartsBody after)
    (h : plain ts = heading.tokens kind ++ after) (room : Nat) :
    ∃ more, plain more = after ∧ ∀ result, readGeometry room ts = .ok result ↔
      readAfterHeading room kind more = .ok result := by
  obtain ⟨⟨offset, token⟩, more, rfl, rfl, hmore⟩ := List.map_eq_cons_iff.mp h
  exact ⟨skipDimensions more, skipDimensions_of_plain hafter hmore,
    readGeometry_word (kindOfWord?_kindWord kind heading.glued) room offset more⟩

/-! ## Geometries -/

/-- A reader of what a kind of geometry holds reads the contents of that kind. -/
theorem Recognizes.content {reader : List Lexeme → Except Stop (α × List Lexeme)}
    {write : β → List Token} {value : β → α} {allowed : β → Prop}
    (h : Recognizes reader write value allowed (fun _ => True)) (F : α → Option Geometry)
    (f : β → Content) {kind : GeometryKind} (hwrite : ∀ b, (f b).tokens = write b)
    (hvalue : ∀ b, (f b).geometry = F (value b))
    (hkind : ∀ c : Content, c.kind = kind ↔ ∃ b, allowed b ∧ f b = c) :
    Recognizes (fun ts => (reader ts).map fun (a, rest) => (F a, rest)) Content.tokens
      Content.geometry (·.kind = kind) (fun _ => True) :=
  h.map F f hwrite hvalue hkind

theorem recognizes_content (room : Nat) {kind : GeometryKind}
    (hkind : kind ≠ .geometryCollection) :
    Recognizes (readAfterHeading room kind) Content.tokens Content.geometry (·.kind = kind)
      (fun _ => True) := by
  have hline := (recognizes_readCoord.readList followsItem_noNumber).body
  have hlines := (recognizes_readLine.readList followsItem_true).body
  cases kind with
  | point =>
    refine recognizes_readPoint.content (Option.map Geometry.point) .point (fun _ => rfl) ?_ ?_
    · intro p
      cases p <;> rfl
    · intro c
      cases c <;> simp [Content.kind]
  | multiPoint =>
    refine (recognizes_readListedPoint.readList followsItem_noNumber).body.content
      (fun points => some (Geometry.multiPoint points)) .multiPoint (fun _ => rfl)
      (fun _ => rfl) ?_
    intro c
    cases c <;> simp [Content.kind]
  | lineString =>
    refine hline.content (fun line => some (Geometry.lineString line)) .lineString
      (fun _ => rfl) (fun _ => rfl) ?_
    intro c
    cases c <;> simp [Content.kind]
  | linearRing =>
    refine hline.content (fun ring => some (Geometry.linearRing ring)) .linearRing
      (fun _ => rfl) (fun _ => rfl) ?_
    intro c
    cases c <;> simp [Content.kind]
  | multiLineString =>
    refine hlines.content (fun lines => some (Geometry.multiLineString lines)) .multiLineString
      (fun _ => rfl) (fun _ => rfl) ?_
    intro c
    cases c <;> simp [Content.kind]
  | polygon =>
    refine hlines.content (fun rings => some (Geometry.polygon rings)) .polygon
      (fun _ => rfl) (fun _ => rfl) ?_
    intro c
    cases c <;> simp [Content.kind]
  | multiPolygon =>
    refine (recognizes_readLines.readList followsItem_true).body.content
      (fun polygons => some (Geometry.multiPolygon polygons)) .multiPolygon
      (fun _ => rfl) (fun _ => rfl) ?_
    intro c
    cases c <;> simp [Content.kind]
  | geometryCollection => exact absurd rfl hkind

/-- The children of a collection are recognized if geometries with less room are. -/
theorem recognizes_readChildren (room : Nat)
    (h : ∀ less, less + 1 = room → Recognizes (readGeometry less) Tree.tokens Tree.geometry
      (·.depth ≤ less) (fun _ => True)) :
    Recognizes (readChildren room) (Row.tokens Tree.tokens) (Row.values Tree.geometry)
      (fun r => ∀ child ∈ r.items, child.depth + 1 ≤ room) (fun _ => True) := by
  cases room with
  | zero =>
    constructor
    · intro ts children rest hread
      cases hread
    · intro ts r after hallowed
      exact absurd (hallowed r.first List.mem_cons_self) (Nat.not_succ_le_zero _)
  | succ room =>
    have hlist := (h room rfl).readList followsItem_true
    simp only [Nat.add_le_add_iff_right]
    exact hlist

theorem recognizes_collection {room : Nat}
    (h : Recognizes (readChildren room) (Row.tokens Tree.tokens) (Row.values Tree.geometry)
      (fun r => ∀ child ∈ r.items, child.depth + 1 ≤ room) (fun _ => True)) :
    Recognizes (readAfterHeading room .geometryCollection)
      (fun children : List Tree => bodyTokens (children.map Tree.tokens))
      (fun children => some (Geometry.collection (children.filterMap Tree.geometry)))
      (fun children => ∀ child ∈ children, child.depth + 1 ≤ room) (fun _ => True) := by
  refine h.body.map (fun children => some (Geometry.collection (children.filterMap id))) id
    (fun _ => rfl) ?_ (by simp)
  intro children
  rw [List.filterMap_map]
  rfl

/-- **A reader with some room reads exactly the trees that need no more.** -/
theorem recognizes_readGeometry (room : Nat) :
    Recognizes (readGeometry room) Tree.tokens Tree.geometry (·.depth ≤ room)
      (fun _ => True) := by
  induction room using Nat.strongRecOn with
  | ind room ih =>
    have hchildren := recognizes_readChildren room fun less hless => ih less (by omega)
    have hcollection := recognizes_collection hchildren
    constructor
    · intro ts g rest hread
      obtain ⟨offset, word, kind, more, rfl, hkind, hread⟩ := readGeometry_eq_ok_iff.mp hread
      obtain ⟨heading, hheading⟩ := exists_heading hkind offset more
      by_cases hcase : kind = .geometryCollection
      · subst hcase
        obtain ⟨children, hdepth, hvalue, hplain⟩ := hcollection.sound _ _ _ hread
        refine ⟨.collection heading children, ?_, ?_, ?_⟩
        · exact (Tree.depth_collection_le heading children room).mpr hdepth
        · rw [Tree.geometry, ← hvalue]
        · rw [hheading, hplain, Tree.tokens, List.append_assoc]
      · obtain ⟨c, rfl, hvalue, hplain⟩ := (recognizes_content room hcase).sound _ _ _ hread
        refine ⟨.simple heading c, ?_, ?_, ?_⟩
        · rw [Tree.depth]
          exact Nat.zero_le room
        · rw [Tree.geometry, hvalue]
        · rw [hheading, hplain, Tree.tokens, List.append_assoc]
    · intro ts t after hdepth _ hplain
      cases t with
      | simple heading c =>
        rw [Tree.tokens, List.append_assoc] at hplain
        obtain ⟨more, hmore, hread⟩ := readGeometry_of_heading (c.startsBody after) hplain room
        obtain ⟨rest, hcontent, hrest⟩ := (recognizes_content room c.kind_ne_collection).complete
          more c after rfl trivial hmore
        exact ⟨rest, by rw [hread, Tree.geometry, hcontent], hrest⟩
      | collection heading children =>
        rw [Tree.tokens, List.append_assoc] at hplain
        obtain ⟨more, hmore, hread⟩ :=
          readGeometry_of_heading (startsBody_bodyTokens _ after) hplain room
        obtain ⟨rest, hcontent, hrest⟩ := hcollection.complete more children after
          ((Tree.depth_collection_le heading children room).mp hdepth) trivial hmore
        exact ⟨rest, by rw [hread, Tree.geometry, hcontent], hrest⟩

/-- **Reading a whole text.** It succeeds just if the tokens are those of a tree with at most 128
open collections, with the geometry of that tree, and no other tree has these tokens. -/
theorem readPhrase_ok_iff (ts : List Lexeme) (g : Option Geometry) :
    readPhrase ts = .ok g ↔
      ∃ t : Tree, t.tokens = ts.map (·.token) ∧ t.depth ≤ 128 ∧ t.geometry = g ∧
        ∀ t' : Tree, t'.tokens = ts.map (·.token) → t' = t := by
  constructor
  · intro h
    obtain ⟨⟨g', rest⟩, hread, hend⟩ := exists_of_bind h
    obtain ⟨t, hdepth, hgeometry, hplain⟩ := (recognizes_readGeometry _).sound _ _ _ hread
    dsimp only at hend
    split at hend
    · rename_i hrest
      cases hend
      rw [List.isEmpty_iff.mp hrest] at hplain
      have htokens : t.tokens = plain ts := by simpa using hplain.symm
      exact ⟨t, htokens, hdepth, hgeometry,
        fun t' ht' => Tree.tokens_injective (ht'.trans htokens.symm)⟩
    · cases hend
  · rintro ⟨t, htokens, hdepth, rfl, -⟩
    have hplain : plain ts = t.tokens ++ [] := by rw [htokens, List.append_nil]
    obtain ⟨rest, hread, hrest⟩ :=
      (recognizes_readGeometry maxCollectionDepth).complete ts t [] hdepth trivial hplain
    rw [List.map_eq_nil_iff] at hrest
    subst hrest
    simp only [readPhrase, bind, Except.bind, hread]
    rfl

example (x y z : Float) :
    readPhrase
      [⟨0, .word "GEOMETRYCOLLECTIONM"⟩, ⟨20, .word "Z"⟩, ⟨22, .opening⟩,
        ⟨23, .word "POINT"⟩, ⟨29, .word "EMPTY"⟩, ⟨34, .comma⟩,
        ⟨36, .word "POINT"⟩, ⟨42, .opening⟩, ⟨43, .number x⟩, ⟨45, .number y⟩, ⟨47, .number z⟩,
        ⟨48, .closing⟩, ⟨49, .closing⟩] =
      .ok (some (.collection [.point ⟨x, y⟩])) := by cbv

end GeoDrafts.Wkt
