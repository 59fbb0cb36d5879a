import GeoDrafts.Proofs.Format.Wkt.Grammar

/-!
The grammar of well-known text is unambiguous: no two trees have the same tokens. What is written
is told apart from what follows it, item by item.
-/

namespace GeoDrafts.Wkt

/-! ## Headings -/

private theorem words_append_inj {d d' : Dimensions} {rest rest' : List Token}
    (hrest : StartsBody rest) (hrest' : StartsBody rest')
    (h : d.words ++ rest = d'.words ++ rest') : d = d' ∧ rest = rest' := by
  cases d <;> cases d' <;> obtain ⟨_, rfl⟩ | ⟨_, rfl⟩ := hrest <;>
    obtain ⟨_, rfl⟩ | ⟨_, rfl⟩ := hrest' <;> simp_all [Dimensions.words, Dimensions.letters]

theorem Heading.tokens_append_inj {kind kind' : GeometryKind} {heading heading' : Heading}
    {rest rest' : List Token} (hrest : StartsBody rest) (hrest' : StartsBody rest')
    (h : heading.tokens kind ++ rest = heading'.tokens kind' ++ rest') :
    kind = kind' ∧ heading = heading' ∧ rest = rest' := by
  simp only [Heading.tokens, List.cons_append, List.cons.injEq, Token.word.injEq] at h
  obtain ⟨hword, hwords⟩ := h
  have hkind : kind = kind' := by
    have hfirst := kindOfWord?_kindWord kind heading.glued
    rw [hword, kindOfWord?_kindWord] at hfirst
    exact (Option.some.inj hfirst).symm
  obtain ⟨hseparate, htail⟩ := words_append_inj hrest hrest' hwords
  subst hkind
  have hglued := Dimensions.letters_inj ((String.append_right_inj _).mp hword)
  cases heading
  cases heading'
  simp_all

/-! ## Lists -/

section Determined

variable {β : Type} {write : β → List Token} {follow : List Token → Prop}

/-- Whatever may follow, the tokens of a value tell it and where it ends. -/
def Determined (write : β → List Token) (follow : List Token → Prop) (b : β) : Prop :=
  ∀ (b' : β) (rest rest' : List Token), follow rest → follow rest' →
    write b ++ rest = write b' ++ rest' → b = b' ∧ rest = rest'

/-- What may stand after an item of a list in parentheses. -/
def FollowsItem (follow : List Token → Prop) : Prop :=
  ∀ rest, follow (.comma :: rest) ∧ follow (.closing :: rest)

theorem follow_more (hfollow : FollowsItem follow) (more : List (List Token))
    (rest : List Token) : follow (afterCommas more ++ .closing :: rest) := by
  cases more with
  | nil => exact (hfollow rest).2
  | cons item more => exact (hfollow _).1

private theorem more_inj (hfollow : FollowsItem follow) {bs bs' : List β}
    (h : ∀ b ∈ bs, Determined write follow b) {rest rest' : List Token}
    (heq : afterCommas (bs.map write) ++ .closing :: rest =
      afterCommas (bs'.map write) ++ .closing :: rest') : bs = bs' ∧ rest = rest' := by
  induction bs generalizing bs' with
  | nil =>
    cases bs' with
    | nil => exact ⟨rfl, (List.cons.inj heq).2⟩
    | cons b' bs' => cases heq
  | cons b bs ih =>
    cases bs' with
    | nil => cases heq
    | cons b' bs' =>
      simp only [List.map_cons, afterCommas, List.cons_append, List.append_assoc,
        List.cons.injEq, true_and] at heq
      obtain ⟨rfl, hmore⟩ := h b List.mem_cons_self b' _ _ (follow_more hfollow _ _)
        (follow_more hfollow _ _) heq
      obtain ⟨rfl, hrest⟩ := ih (fun b hb => h b (List.mem_cons_of_mem _ hb)) hmore
      exact ⟨rfl, hrest⟩

theorem determined_row (hfollow : FollowsItem follow) {r : Row β}
    (h : ∀ b ∈ r.items, Determined write follow b) :
    Determined (Row.tokens write) (fun _ => True) r := by
  intro r' rest rest' _ _ heq
  rw [Row.tokens, Row.tokens, enclose_append, enclose_append, List.cons.injEq] at heq
  obtain ⟨hfirst, hmore⟩ := h r.first List.mem_cons_self _ _ _ (follow_more hfollow _ _)
    (follow_more hfollow _ _) heq.2
  obtain ⟨htail, hrest⟩ := more_inj hfollow (fun b hb => h b (List.mem_cons_of_mem _ hb)) hmore
  cases r
  cases r'
  simp_all

theorem determined_body (hfollow : FollowsItem follow) {bs : List β}
    (h : ∀ b ∈ bs, Determined write follow b) :
    Determined (fun bs => bodyTokens (bs.map write)) (fun _ => True) bs := by
  intro bs' rest rest' _ _ heq
  cases bs with
  | nil =>
    cases bs' with
    | nil => exact ⟨rfl, by simpa [bodyTokens] using heq⟩
    | cons b' bs' => simp [bodyTokens, enclose] at heq
  | cons b bs =>
    cases bs' with
    | nil => simp [bodyTokens, enclose] at heq
    | cons b' bs' =>
      obtain ⟨hrow, hrest⟩ := determined_row (r := ⟨b, bs⟩) hfollow h ⟨b', bs'⟩ rest rest'
        trivial trivial heq
      rw [Row.mk.injEq] at hrow
      exact ⟨by rw [hrow.1, hrow.2], hrest⟩

end Determined

/-! ## Positions -/

/-- What may stand after a position: no other number. -/
def NoNumber (ts : List Token) : Prop := ∀ x rest, ts ≠ .number x :: rest

theorem followsItem_noNumber : FollowsItem NoNumber := by
  intro rest
  constructor <;> intro x rest' h <;> cases h

private theorem numbers_append_inj {xs xs' : List Float} {rest rest' : List Token}
    (hrest : NoNumber rest) (hrest' : NoNumber rest')
    (h : xs.map Token.number ++ rest = xs'.map Token.number ++ rest') :
    xs = xs' ∧ rest = rest' := by
  induction xs generalizing xs' with
  | nil =>
    cases xs' with
    | nil => exact ⟨rfl, h⟩
    | cons x' xs' => exact absurd h (hrest x' _)
  | cons x xs ih =>
    cases xs' with
    | nil => exact absurd h.symm (hrest' x _)
    | cons x' xs' =>
      simp only [List.map_cons, List.cons_append, List.cons.injEq, Token.number.injEq] at h
      obtain ⟨rfl, htail⟩ := ih h.2
      exact ⟨by rw [h.1], htail⟩

theorem determined_position (p : Position) : Determined Position.tokens NoNumber p := by
  intro p' rest rest' hrest hrest' h
  obtain ⟨hnumbers, htail⟩ := numbers_append_inj hrest hrest' h
  cases p
  cases p'
  simp_all

/-- A single position in parentheses is a list of one. -/
theorem determined_enclosed (p : Position) :
    Determined (fun p => enclose (Position.tokens p) []) (fun _ => True) p := by
  intro p' rest rest' hrest hrest' h
  obtain ⟨hrow, htail⟩ := determined_row (r := ⟨p, []⟩) followsItem_noNumber
    (fun p _ => determined_position p) ⟨p', []⟩ rest rest' hrest hrest' h
  rw [Row.mk.injEq] at hrow
  exact ⟨hrow.1, htail⟩

theorem determined_listedPoint (p : ListedPoint) :
    Determined ListedPoint.tokens NoNumber p := by
  intro p' rest rest' hrest hrest' h
  cases p with
  | bare p =>
    cases p' with
    | bare p' =>
      obtain ⟨rfl, htail⟩ := determined_position p p' rest rest' hrest hrest' h
      exact ⟨rfl, htail⟩
    | enclosed p' => simp [ListedPoint.tokens, Position.tokens, enclose] at h
  | enclosed p =>
    cases p' with
    | bare p' => simp [ListedPoint.tokens, Position.tokens, enclose] at h
    | enclosed p' =>
      obtain ⟨rfl, htail⟩ := determined_enclosed p p' rest rest' trivial trivial h
      exact ⟨rfl, htail⟩

theorem determined_line (r : Row Position) :
    Determined (Row.tokens Position.tokens) (fun _ => True) r :=
  determined_row followsItem_noNumber fun p _ => determined_position p

theorem followsItem_true : FollowsItem fun _ => True := fun _ => ⟨trivial, trivial⟩

/-! ## Trees -/

theorem Content.tokens_append_inj {c c' : Content} (hkind : c.kind = c'.kind)
    {rest rest' : List Token} (h : c.tokens ++ rest = c'.tokens ++ rest') :
    c = c' ∧ rest = rest' := by
  have hline : ∀ line : List Position, Determined
      (fun line => bodyTokens (line.map Position.tokens)) (fun _ => True) line :=
    fun _ => determined_body followsItem_noNumber fun p _ => determined_position p
  have hlines : ∀ lines : List (Row Position), Determined
      (fun lines => bodyTokens (lines.map (Row.tokens Position.tokens))) (fun _ => True) lines :=
    fun _ => determined_body followsItem_true fun r _ => determined_line r
  cases c <;> cases c' <;> cases hkind
  case point position position' =>
    have hlist := hline position.toList position'.toList rest rest' trivial trivial h
    cases position <;> cases position' <;> simp_all
  case multiPoint points points' =>
    obtain ⟨rfl, htail⟩ := determined_body followsItem_noNumber
      (fun p _ => determined_listedPoint p) points' rest rest' trivial trivial h
    exact ⟨rfl, htail⟩
  case lineString line line' =>
    obtain ⟨rfl, htail⟩ := hline line line' rest rest' trivial trivial h
    exact ⟨rfl, htail⟩
  case linearRing ring ring' =>
    obtain ⟨rfl, htail⟩ := hline ring ring' rest rest' trivial trivial h
    exact ⟨rfl, htail⟩
  case multiLineString lines lines' =>
    obtain ⟨rfl, htail⟩ := hlines lines lines' rest rest' trivial trivial h
    exact ⟨rfl, htail⟩
  case polygon rings rings' =>
    obtain ⟨rfl, htail⟩ := hlines rings rings' rest rest' trivial trivial h
    exact ⟨rfl, htail⟩
  case multiPolygon polygons polygons' =>
    obtain ⟨rfl, htail⟩ := determined_body followsItem_true
      (fun r _ => determined_row followsItem_true fun r _ => determined_line r)
      polygons' rest rest' trivial trivial h
    exact ⟨rfl, htail⟩

theorem Content.startsBody (c : Content) (rest : List Token) : StartsBody (c.tokens ++ rest) := by
  cases c <;> exact startsBody_bodyTokens _ rest

theorem Content.kind_ne_collection (c : Content) : c.kind ≠ .geometryCollection := by
  cases c <;> simp [kind]

/-- **A tree is determined by its tokens**, whatever may follow. -/
theorem Tree.determined (t : Tree) : Determined tokens (fun _ => True) t := by
  intro t' rest rest' _ _ h
  match t with
  | simple heading c =>
    cases t' with
    | simple heading' c' =>
      simp only [tokens, List.append_assoc] at h
      obtain ⟨hkind, rfl, hcontent⟩ :=
        Heading.tokens_append_inj (c.startsBody rest) (c'.startsBody rest') h
      obtain ⟨rfl, htail⟩ := Content.tokens_append_inj hkind hcontent
      exact ⟨rfl, htail⟩
    | collection heading' children' =>
      simp only [tokens, List.append_assoc] at h
      obtain ⟨hkind, _, _⟩ :=
        Heading.tokens_append_inj (c.startsBody rest) (startsBody_bodyTokens _ rest') h
      exact absurd hkind c.kind_ne_collection
  | collection heading children =>
    cases t' with
    | simple heading' c' =>
      simp only [tokens, List.append_assoc] at h
      obtain ⟨hkind, _, _⟩ :=
        Heading.tokens_append_inj (startsBody_bodyTokens _ rest) (c'.startsBody rest') h
      exact absurd hkind.symm c'.kind_ne_collection
    | collection heading' children' =>
      simp only [tokens, List.append_assoc] at h
      obtain ⟨_, rfl, hbody⟩ :=
        Heading.tokens_append_inj (startsBody_bodyTokens _ rest) (startsBody_bodyTokens _ rest') h
      obtain ⟨rfl, htail⟩ := determined_body followsItem_true
        (fun child hchild => child.determined) children' rest rest' trivial trivial hbody
      exact ⟨rfl, htail⟩
termination_by sizeOf t
decreasing_by
  have hlt := List.sizeOf_lt_of_mem hchild
  simp only [Tree.collection.sizeOf_spec]
  omega

theorem Tree.tokens_injective {t t' : Tree} (h : t.tokens = t'.tokens) : t = t' :=
  (t.determined t' [] [] trivial trivial (congrArg (· ++ []) h)).1

end GeoDrafts.Wkt
