import GeoDrafts.Proofs.Format.Wkt.Lexing

/-!
Writing geometries as well-known text. What may be written for a geometry is a relation, since the
case of letters, the form of numbers, the further numbers of positions and the letters for the
dimensions are free. Every such text is read as the geometry that it writes.
-/

namespace GeoDrafts

namespace Geometry

mutual

/-- The greatest number of collections with children inside each other. -/
def openNesting : Geometry → Nat
  | .collection children => openNestingOfAll children
  | _ => 0

def openNestingOfAll : List Geometry → Nat
  | [] => 0
  | g :: gs => max (openNesting g + 1) (openNestingOfAll gs)

end

end Geometry

namespace Wkt

/-! ## Texts -/

/-- The letters of a word, each in either case. -/
def WritesWord (word : String) (cs : List Char) : Prop :=
  (∀ c ∈ cs, c.isAlpha = true) ∧ cs.map Char.toUpper = word.toList

/-- A number in any form that is read as a certain double. -/
def WritesNumber (x : Float) (cs : List Char) : Prop :=
  NumberText cs ∧ Decimal.readFloat? cs = some x

/-- The two numbers of a coordinate, and at most two more, with a space between them. -/
inductive WritesPosition (c : Coord) : List Char → Prop where
  | numbers {x y : List Char} {more : List (List Char)} (hx : WritesNumber c.x x)
      (hy : WritesNumber c.y y) (hmore : ∀ z ∈ more, ∃ value, WritesNumber value z)
      (hlength : more.length ≤ 2) : WritesPosition c ([' '].intercalate (x :: y :: more))

def listText (items : List (List Char)) : List Char :=
  '(' :: ([',', ' '].intercalate items ++ [')'])

/-- A position, perhaps in parentheses of its own. -/
inductive WritesListedPoint (c : Coord) : List Char → Prop where
  | bare {cs : List Char} (h : WritesPosition c cs) : WritesListedPoint c cs
  | enclosed {cs : List Char} (h : WritesPosition c cs) : WritesListedPoint c (listText [cs])

def WritesList {α : Type} (write : α → List Char → Prop) (as : List α) (cs : List Char) : Prop :=
  as ≠ [] ∧ ∃ texts, List.Forall₂ write as texts ∧ cs = listText texts

/-- The name of a kind, with letters for the dimensions at its end, in a word after it, or
without. -/
inductive WritesHeading (kind : GeometryKind) : List Char → Prop where
  | name (glued : Dimensions) {name : List Char}
      (hname : WritesWord (kindWord kind ++ glued.letters) name) : WritesHeading kind name
  | tagged (glued separate : Dimensions) {name tag : List Char}
      (hname : WritesWord (kindWord kind ++ glued.letters) name) (hsaid : separate ≠ .unsaid)
      (htag : WritesWord separate.letters tag) : WritesHeading kind (name ++ ' ' :: tag)

/-- The items of a geometry behind its heading, perhaps after a space. -/
inductive WritesBody : List (List Char) → List Char → Prop where
  | empty {word : List Char} (hword : WritesWord "EMPTY" word) : WritesBody [] (' ' :: word)
  | items {item : List Char} {more : List (List Char)} :
    WritesBody (item :: more) (listText (item :: more))
  | spaced {item : List Char} {more : List (List Char)} :
    WritesBody (item :: more) (' ' :: listText (item :: more))

/-- The texts of a geometry. Only its own list of items may be empty. -/
inductive Writes : Geometry → List Char → Prop where
  | point {c : Coord} {heading item body : List Char} (hheading : WritesHeading .point heading)
      (hitem : WritesPosition c item) (hbody : WritesBody [item] body) :
    Writes (.point c) (heading ++ body)
  | multiPoint {cs : List Coord} {heading body : List Char} {items : List (List Char)}
      (hheading : WritesHeading .multiPoint heading)
      (hitems : List.Forall₂ WritesListedPoint cs items) (hbody : WritesBody items body) :
    Writes (.multiPoint cs) (heading ++ body)
  | lineString {line : Ring} {heading body : List Char} {items : List (List Char)}
      (hheading : WritesHeading .lineString heading)
      (hitems : List.Forall₂ WritesPosition line items) (hbody : WritesBody items body) :
    Writes (.lineString line) (heading ++ body)
  | linearRing {ring : Ring} {heading body : List Char} {items : List (List Char)}
      (hheading : WritesHeading .linearRing heading)
      (hitems : List.Forall₂ WritesPosition ring items) (hbody : WritesBody items body) :
    Writes (.linearRing ring) (heading ++ body)
  | multiLineString {lines : List Ring} {heading body : List Char} {items : List (List Char)}
      (hheading : WritesHeading .multiLineString heading)
      (hitems : List.Forall₂ (WritesList WritesPosition) lines items)
      (hbody : WritesBody items body) : Writes (.multiLineString lines) (heading ++ body)
  | polygon {rings : List Ring} {heading body : List Char} {items : List (List Char)}
      (hheading : WritesHeading .polygon heading)
      (hitems : List.Forall₂ (WritesList WritesPosition) rings items)
      (hbody : WritesBody items body) : Writes (.polygon rings) (heading ++ body)
  | multiPolygon {polygons : List (List Ring)} {heading body : List Char}
      {items : List (List Char)} (hheading : WritesHeading .multiPolygon heading)
      (hitems : List.Forall₂ (WritesList (WritesList WritesPosition)) polygons items)
      (hbody : WritesBody items body) : Writes (.multiPolygon polygons) (heading ++ body)
  | collection {children : List Geometry} {heading body : List Char} {items : List (List Char)}
      (hheading : WritesHeading .geometryCollection heading)
      (hitems : List.Forall₂ Writes children items) (hbody : WritesBody items body) :
    Writes (.collection children) (heading ++ body)

/-! ## Tokens of a text -/

/-- A text gives certain tokens, whatever follows that ends a word or a number. -/
def Spells (cs : List Char) (ts : List Token) : Prop :=
  ∀ rest more, EndsToken rest → Lexes rest more → Lexes (cs ++ rest) (ts ++ more)

theorem endsToken_cons {c : Char} (h : c = ' ' ∨ c = '(' ∨ c = ')' ∨ c = ',') (cs : List Char) :
    EndsToken (c :: cs) := by
  intro d hd
  obtain rfl : c = d := Option.some.inj hd
  exact h

theorem Spells.lexes {cs : List Char} {ts : List Token} (h : Spells cs ts) : Lexes cs ts := by
  have hend := h [] [] (by simp [EndsToken]) lexes_nil
  rwa [List.append_nil, List.append_nil] at hend

theorem spells_word {word : String} {cs : List Char} (hne : word ≠ "") (h : WritesWord word cs) :
    Spells cs [.word word] := by
  intro rest more hrest hmore
  have hcs : cs ≠ [] := by
    rintro rfl
    exact hne (String.toList_eq_nil_iff.mp h.2.symm)
  have hupper : (String.ofList cs).toUpper = word := by
    rw [← String.toList_inj, String.toUpper, String.toList_map, String.toList_ofList, h.2]
  rw [← hupper]
  exact lexes_word hcs h.1 hrest hmore

theorem spells_number {x : Float} {cs : List Char} (h : WritesNumber x cs) :
    Spells cs [.number x] :=
  fun _ _ hrest hmore => lexes_number h.1 h.2 hrest hmore

theorem spells_numbers {xs : List Float} {texts : List (List Char)}
    (h : List.Forall₂ WritesNumber xs texts) :
    Spells ([' '].intercalate texts) (xs.map .number) := by
  induction h with
  | nil => exact fun rest more _ hmore => hmore
  | @cons x text xs texts hx hxs ih =>
    cases hxs with
    | nil =>
      rw [List.intercalate_singleton]
      exact spells_number hx
    | cons hy hys =>
      intro rest more hrest hmore
      rw [List.intercalate_cons_cons, List.append_assoc, List.append_assoc]
      exact spells_number hx _ _ (endsToken_cons (.inl rfl) _)
        (lexes_space (ih rest more hrest hmore))

section
variable {texts : List (List Char)} {items : List (List Token)}

/-- The items of a list, with a comma before each but the first. -/
theorem spells_items {text : List Char} {item : List Token} (hitem : Spells text item)
    (h : List.Forall₂ Spells texts items) :
    Spells ([',', ' '].intercalate (text :: texts)) (item ++ afterCommas items) := by
  induction h generalizing text item with
  | nil =>
    rw [List.intercalate_singleton, afterCommas, List.append_nil]
    exact hitem
  | cons hnext _ ih =>
    intro rest more hrest hmore
    rw [List.intercalate_cons_cons, afterCommas, List.append_assoc, List.append_assoc,
      List.append_assoc]
    exact hitem _ _ (endsToken_cons (by decide) _)
      (lexes_comma (lexes_space (ih hnext rest more hrest hmore)))

theorem spells_list {text : List Char} {item : List Token} (hitem : Spells text item)
    (h : List.Forall₂ Spells texts items) :
    Spells (listText (text :: texts)) (enclose item items) := by
  intro rest more _ hmore
  have hinner := spells_items hitem h (')' :: rest) (.closing :: more)
    (endsToken_cons (by decide) _) (lexes_closing hmore)
  rw [enclose_append, listText, List.cons_append, List.append_assoc]
  rw [List.append_assoc] at hinner
  exact lexes_opening hinner

/-- The tokens of a geometry are those of its heading, then those of its body. -/
theorem spells_tagged {kind : GeometryKind} {heading body : List Char}
    (hheading : WritesHeading kind heading) (hbody : WritesBody texts body)
    (h : List.Forall₂ Spells texts items) :
    ∃ h : Heading, Spells (heading ++ body) (h.tokens kind ++ bodyTokens items) := by
  have hname : ∀ d : Dimensions, kindWord kind ++ d.letters ≠ "" := by
    intro d
    cases kind <;> cases d <;> decide
  have hspells : Spells body (bodyTokens items) ∧
      ∀ rest, EndsToken (body ++ rest) := by
    cases hbody with
    | empty hword =>
      cases h
      exact ⟨fun rest more hrest hmore =>
        lexes_space (spells_word (by decide) hword rest more hrest hmore),
        fun rest => endsToken_cons (by decide) _⟩
    | items =>
      cases h with
      | cons hitem hitems =>
        exact ⟨spells_list hitem hitems, fun rest => endsToken_cons (by decide) _⟩
    | spaced =>
      cases h with
      | cons hitem hitems =>
        exact ⟨fun rest more hrest hmore => lexes_space (spells_list hitem hitems _ _ hrest hmore),
          fun rest => endsToken_cons (by decide) _⟩
  obtain ⟨hbody', hend⟩ := hspells
  cases hheading with
  | name glued hname' =>
    refine ⟨⟨glued, .unsaid⟩, fun rest more hrest hmore => ?_⟩
    rw [List.append_assoc, List.append_assoc]
    exact spells_word (hname glued) hname' _ _ (hend rest) (hbody' rest more hrest hmore)
  | tagged glued separate hname' hsaid htag =>
    have hletters : separate.letters ≠ "" ∧ separate.words = [.word separate.letters] := by
      cases separate with
      | unsaid => exact absurd rfl hsaid
      | _ => exact ⟨by decide, rfl⟩
    refine ⟨⟨glued, separate⟩, fun rest more hrest hmore => ?_⟩
    rw [Heading.tokens, hletters.2, List.append_assoc, List.append_assoc, List.append_assoc]
    exact spells_word (hname glued) hname' _ _ (endsToken_cons (by decide) _)
      (lexes_space (spells_word hletters.1 htag _ _ (hend rest)
        (hbody' rest more hrest hmore)))

end

/-! ## Derivations of a text -/

/-- Items that are each related to something are related to a list of such things. -/
theorem exists_forall₂ {α β : Type} {r : α → β → Prop} {as : List α}
    (h : ∀ a ∈ as, ∃ b, r a b) : ∃ bs, List.Forall₂ r as bs := by
  induction as with
  | nil => exact ⟨[], .nil⟩
  | cons a as ih =>
    obtain ⟨⟨b, hb⟩, has⟩ := List.forall_mem_cons.mp h
    obtain ⟨bs, hbs⟩ := ih has
    exact ⟨b :: bs, .cons hb hbs⟩

/-- Whatever is written has a derivation with the value and the tokens of the text. -/
def Derives {α β : Type} (write : α → List Char → Prop) (value : β → α)
    (tokens : β → List Token) : Prop :=
  ∀ a cs, write a cs → ∃ b, value b = a ∧ Spells cs (tokens b)

theorem derives_position : Derives WritesPosition Position.coord Position.tokens := by
  intro c cs h
  cases h with
  | @numbers x y more hx hy hmore hlength =>
    obtain ⟨zs, hzs⟩ := exists_forall₂ (r := fun z value => WritesNumber value z) hmore
    exact ⟨⟨c.x, c.y, zs, by rw [← hzs.length_eq]; exact hlength⟩, rfl,
      spells_numbers (.cons hx (.cons hy hzs.flip))⟩

theorem derives_listedPoint :
    Derives WritesListedPoint ListedPoint.coord ListedPoint.tokens := by
  intro c cs h
  cases h with
  | bare h =>
    obtain ⟨p, hp, hspells⟩ := derives_position c _ h
    exact ⟨.bare p, hp, hspells⟩
  | enclosed h =>
    obtain ⟨p, hp, hspells⟩ := derives_position c _ h
    exact ⟨.enclosed p, hp, spells_list hspells .nil⟩

section
variable {α β : Type} {write : α → List Char → Prop} {value : β → α} {tokens : β → List Token}

theorem Derives.items (h : Derives write value tokens) {as : List α} {texts : List (List Char)}
    (hwrite : List.Forall₂ write as texts) :
    ∃ bs : List β, bs.map value = as ∧ List.Forall₂ Spells texts (bs.map tokens) := by
  induction hwrite with
  | nil => exact ⟨[], rfl, .nil⟩
  | @cons a text as texts ha _ ih =>
    obtain ⟨b, rfl, hb⟩ := h a text ha
    obtain ⟨bs, rfl, hbs⟩ := ih
    exact ⟨b :: bs, rfl, .cons hb hbs⟩

theorem Derives.list (h : Derives write value tokens) :
    Derives (WritesList write) (Row.values value) (Row.tokens tokens) := by
  rintro as cs ⟨hne, texts, hwrite, rfl⟩
  obtain ⟨bs, rfl, hbs⟩ := h.items hwrite
  cases bs with
  | nil => exact absurd rfl hne
  | cons b bs =>
    cases hbs with
    | cons hb hbs => exact ⟨⟨b, bs⟩, rfl, spells_list hb hbs⟩

end

/-- A text is the one of a tree that means a geometry and nests as deep. -/
def IsDerived (g : Geometry) (cs : List Char) : Prop :=
  ∃ t : Tree, t.geometry = some g ∧ t.depth = g.openNesting ∧ Spells cs t.tokens

theorem isDerived_simple {g : Geometry} {cs : List Char} (content : Content)
    (hg : content.geometry = some g)
    (h : ∃ heading : Heading, Spells cs (heading.tokens content.kind ++ content.tokens)) :
    IsDerived g cs := by
  obtain ⟨heading, hspells⟩ := h
  have hnone : g.openNesting = 0 := by
    cases content with
    | point position =>
      obtain ⟨p, -, rfl⟩ := Option.map_eq_some_iff.mp hg
      rfl
    | _ =>
      cases hg
      rfl
  refine ⟨.simple heading content, ?_, ?_, ?_⟩
  · rw [Tree.geometry, hg]
  · rw [Tree.depth, hnone]
  · rw [Tree.tokens]
    exact hspells

theorem isDerived_collection {gs : List Geometry} {cs : List Char} {ts : List Tree}
    (hgs : ts.map Tree.geometry = gs.map some)
    (hnesting : ts.map Tree.depth = gs.map Geometry.openNesting)
    (h : ∃ heading : Heading,
      Spells cs (heading.tokens .geometryCollection ++ bodyTokens (ts.map Tree.tokens))) :
    IsDerived (.collection gs) cs := by
  obtain ⟨heading, hspells⟩ := h
  have hchildren : ts.filterMap Tree.geometry = gs := by
    have hmap : (ts.map Tree.geometry).filterMap id = (gs.map some).filterMap id := by rw [hgs]
    simpa [List.filterMap_map, Function.comp_def] using hmap
  have hdepth : (ts.map fun t => t.depth + 1).foldr max 0 = Geometry.openNestingOfAll gs := by
    have hsucc : (ts.map fun t => t.depth + 1) = gs.map fun g => g.openNesting + 1 := by
      have hmap := congrArg (List.map (· + 1)) hnesting
      rwa [List.map_map, List.map_map] at hmap
    rw [hsucc]
    clear * -
    induction gs with
    | nil => rfl
    | cons g gs ih => rw [List.map_cons, List.foldr_cons, ih, Geometry.openNestingOfAll]
  refine ⟨.collection heading ts, ?_, ?_, ?_⟩
  · rw [Tree.geometry, hchildren]
  · rw [Tree.depth, hdepth, Geometry.openNesting]
  · rw [Tree.tokens]
    exact hspells

mutual

theorem isDerived_of_writes (g : Geometry) {cs : List Char} (h : Writes g cs) :
    IsDerived g cs := by
  cases h with
  | @point c heading item body hheading hitem hbody =>
    obtain ⟨p, rfl, hspells⟩ := derives_position c item hitem
    exact isDerived_simple (.point (some p)) rfl
      (spells_tagged hheading hbody (.cons hspells .nil))
  | multiPoint hheading hitems hbody =>
    obtain ⟨points, rfl, hspells⟩ := derives_listedPoint.items hitems
    exact isDerived_simple (.multiPoint points) rfl
      (spells_tagged hheading hbody hspells)
  | lineString hheading hitems hbody =>
    obtain ⟨line, rfl, hspells⟩ := derives_position.items hitems
    exact isDerived_simple (.lineString line) rfl
      (spells_tagged hheading hbody hspells)
  | linearRing hheading hitems hbody =>
    obtain ⟨ring, rfl, hspells⟩ := derives_position.items hitems
    exact isDerived_simple (.linearRing ring) rfl
      (spells_tagged hheading hbody hspells)
  | multiLineString hheading hitems hbody =>
    obtain ⟨lines, rfl, hspells⟩ := derives_position.list.items hitems
    exact isDerived_simple (.multiLineString lines) rfl
      (spells_tagged hheading hbody hspells)
  | polygon hheading hitems hbody =>
    obtain ⟨rings, rfl, hspells⟩ := derives_position.list.items hitems
    exact isDerived_simple (.polygon rings) rfl
      (spells_tagged hheading hbody hspells)
  | multiPolygon hheading hitems hbody =>
    obtain ⟨polygons, rfl, hspells⟩ := derives_position.list.list.items hitems
    exact isDerived_simple (.multiPolygon polygons) rfl
      (spells_tagged hheading hbody hspells)
  | @collection children heading body items hheading hitems hbody =>
    obtain ⟨ts, hgs, hnesting, hspells⟩ := exists_trees_of_writes children hitems
    exact isDerived_collection hgs hnesting (spells_tagged hheading hbody hspells)

theorem exists_trees_of_writes (gs : List Geometry) {texts : List (List Char)}
    (h : List.Forall₂ Writes gs texts) :
    ∃ ts : List Tree, ts.map Tree.geometry = gs.map some ∧
      ts.map Tree.depth = gs.map Geometry.openNesting ∧
      List.Forall₂ Spells texts (ts.map Tree.tokens) := by
  cases h with
  | nil => exact ⟨[], rfl, rfl, .nil⟩
  | @cons g text gs texts hg hgs =>
    obtain ⟨t, hgeometry, hdepth, hspells⟩ := isDerived_of_writes g hg
    obtain ⟨ts, hgeometries, hdepths, hall⟩ := exists_trees_of_writes gs hgs
    exact ⟨t :: ts, by rw [List.map_cons, List.map_cons, hgeometry, hgeometries],
      by rw [List.map_cons, List.map_cons, hdepth, hdepths], .cons hspells hall⟩

end

/-! ## Reading a text -/

/-- No name of a kind starts with the first letter of a reference system. -/
theorem head_of_heading {kind : GeometryKind} {heading : List Char}
    (h : WritesHeading kind heading) :
    ∃ c more, heading = c :: more ∧ c.isAlpha = true ∧ c ∉ ['S', 's', 'ſ'] := by
  have hname : ∀ {d : Dimensions} {name : List Char},
      WritesWord (kindWord kind ++ d.letters) name →
        ∃ c more, name = c :: more ∧ c.isAlpha = true ∧ c ∉ ['S', 's', 'ſ'] := by
    intro d name hword
    have hfirst : ∃ first, (kindWord kind ++ d.letters).toList.head? = some first ∧
        'S'.toUpper ≠ first ∧ 's'.toUpper ≠ first ∧ 'ſ'.toUpper ≠ first := by
      cases kind <;> cases d <;> exact ⟨_, rfl, by decide⟩
    obtain ⟨first, hhead, hS, hs, hlong⟩ := hfirst
    rw [← hword.2, List.head?_map, Option.map_eq_some_iff] at hhead
    obtain ⟨c, hc, rfl⟩ := hhead
    obtain ⟨more, rfl⟩ := List.head?_eq_some_iff.mp hc
    refine ⟨c, more, rfl, hword.1 c List.mem_cons_self, fun hmem => ?_⟩
    simp only [List.mem_cons, List.not_mem_nil, or_false] at hmem
    rcases hmem with rfl | rfl | rfl
    · exact hS rfl
    · exact hs rfl
    · exact hlong rfl
  cases h with
  | name glued hword => exact hname hword
  | tagged glued separate hword =>
    obtain ⟨c, more, rfl, hc⟩ := hname hword
    exact ⟨c, _, rfl, hc⟩

theorem body_of_writes {g : Geometry} {cs : List Char} (h : Writes g cs) : body cs = cs := by
  obtain ⟨kind, heading, items, hheading, rfl⟩ :
      ∃ kind heading items, WritesHeading kind heading ∧ cs = heading ++ items := by
    cases h <;> exact ⟨_, _, _, ‹_›, rfl⟩
  obtain ⟨c, more, rfl, halpha, hc⟩ := head_of_heading hheading
  have hnone : afterSystem? (c :: (more ++ items)) = none := by
    rw [afterSystem?, List.dropWhile_cons_of_neg (by simp [isBlankChar_of_isAlpha halpha]),
      systemLetters, dropLetters?, if_neg hc]
  rw [List.cons_append, body, hnone]
  rfl

theorem decode_of_writes {g : Geometry} (hnesting : g.openNesting ≤ maxCollectionDepth)
    {text : String} (h : Writes g text.toList) : decode text = .ok [⟨some g, []⟩] := by
  obtain ⟨t, hgeometry, hdepth, hspells⟩ := isDerived_of_writes g h
  obtain ⟨ls, htokens, hplain⟩ := hspells.lexes text.toList.length 0 (Nat.le_refl _)
  have hwritten : t.WrittenBy text := ⟨ls, by rw [body_of_writes h]; exact htokens, hplain⟩
  rw [decode_of_writtenBy hwritten (hdepth ▸ hnesting), hgeometry]
  rfl

end Wkt

end GeoDrafts
