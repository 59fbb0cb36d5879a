import GeoDrafts.Proofs.Decimal.NotNan
import GeoDrafts.Proofs.Format.Coords
import GeoDrafts.Proofs.Format.Wkt.Nesting

/-!
The coordinates that are read from well-known text are the first two numbers of each position, in
the order of the text. Nothing tests them, so a number too large for a double is infinite; but
none is NaN.
-/

namespace GeoDrafts.Wkt

/-! ## Positions of a tree -/

namespace ListedPoint

def position : ListedPoint → Position
  | bare p => p
  | enclosed p => p

theorem coord_position (point : ListedPoint) : point.position.coord = point.coord := by
  cases point <;> rfl

end ListedPoint

def Content.positions : Content → List Position
  | point position => position.toList
  | multiPoint points => points.map ListedPoint.position
  | lineString positions | linearRing positions => positions
  | multiLineString rows | polygon rows => rows.flatMap Row.items
  | multiPolygon polygons => polygons.flatMap fun polygon => polygon.items.flatMap Row.items

def Tree.positions : Tree → List Position
  | simple _ content => content.positions
  | collection _ children => children.flatMap positions

theorem flatten_values (rows : List (Row Position)) :
    (rows.map (Row.values Position.coord)).flatten =
      (rows.flatMap Row.items).map Position.coord := by
  induction rows with
  | nil => rfl
  | cons row rows ih =>
    rw [List.map_cons, List.flatten_cons, ih, List.flatMap_cons, List.map_append, Row.values]

theorem flatten_flatten_values (polygons : List (Row (Row Position))) :
    (polygons.map (Row.values (Row.values Position.coord))).flatten.flatten =
      (polygons.flatMap fun polygon => polygon.items.flatMap Row.items).map Position.coord := by
  induction polygons with
  | nil => rfl
  | cons polygon polygons ih =>
    rw [List.map_cons, List.flatten_cons, List.flatten_append, ih, List.flatMap_cons,
      List.map_append, Row.values, flatten_values]

theorem Content.coords_geometry (c : Content) :
    c.geometry.toList.flatMap Geometry.coords = c.positions.map Position.coord := by
  cases c with
  | point position =>
    cases position <;> simp [Content.geometry, Content.positions, Geometry.coords]
  | multiPoint points =>
    simp [Content.geometry, Content.positions, Geometry.coords, Function.comp_def,
      ListedPoint.coord_position]
  | lineString line => simp [Content.geometry, Content.positions, Geometry.coords]
  | linearRing ring => simp [Content.geometry, Content.positions, Geometry.coords]
  | multiLineString rows =>
    simp [Content.geometry, Content.positions, Geometry.coords, flatten_values]
  | polygon rows => simp [Content.geometry, Content.positions, Geometry.coords, flatten_values]
  | multiPolygon polygons =>
    simp [Content.geometry, Content.positions, Geometry.coords, flatten_flatten_values]

/-- The coordinates of the geometry are those of the positions; a point without one has none. -/
theorem Tree.coords_geometry (t : Tree) :
    t.geometry.toList.flatMap Geometry.coords = t.positions.map Position.coord := by
  match t with
  | simple heading c =>
    rw [Tree.geometry, Tree.positions]
    exact c.coords_geometry
  | collection heading children =>
    have hchildren : ∀ child ∈ children, child.geometry.toList.flatMap Geometry.coords =
        child.positions.map Position.coord :=
      fun child hchild => Tree.coords_geometry child
    rw [Tree.geometry, Tree.positions, Option.toList_some, List.flatMap_singleton,
      Geometry.coords, Geometry.coordsOfAll_eq_flatMap]
    clear t
    induction children with
    | nil => rfl
    | cons child children ih =>
      obtain ⟨hchild, hrest⟩ := List.forall_mem_cons.mp hchildren
      rw [List.flatMap_cons, List.map_append, ← hchild, ← ih hrest]
      cases hgeometry : child.geometry <;> simp [hgeometry]
termination_by sizeOf t
decreasing_by
  have := List.sizeOf_lt_of_mem hchild
  simp only [collection.sizeOf_spec]
  omega

/-! ## Tokens of a position -/

theorem mem_afterCommas {items : List (List Token)} {item : List Token} {token : Token}
    (hitem : item ∈ items) (htoken : token ∈ item) : token ∈ afterCommas items := by
  induction items with
  | nil => cases hitem
  | cons first more ih =>
    rw [afterCommas]
    cases hitem with
    | head => exact List.mem_cons_of_mem _ (List.mem_append_left _ htoken)
    | tail _ hmore => exact List.mem_cons_of_mem _ (List.mem_append_right _ (ih hmore))

theorem mem_bodyTokens {items : List (List Token)} {item : List Token} {token : Token}
    (hitem : item ∈ items) (htoken : token ∈ item) : token ∈ bodyTokens items := by
  cases items with
  | nil => cases hitem
  | cons first more =>
    rw [bodyTokens, enclose]
    refine List.mem_cons_of_mem _ ?_
    cases hitem with
    | head => exact List.mem_append_left _ htoken
    | tail _ hmore =>
      exact List.mem_append_right _ (List.mem_append_left _ (mem_afterCommas hmore htoken))

theorem Row.mem_tokens {β : Type} {write : β → List Token} {r : Row β} {b : β} (hb : b ∈ r.items)
    {token : Token} (htoken : token ∈ write b) : token ∈ r.tokens write := by
  show token ∈ bodyTokens (r.items.map write)
  exact mem_bodyTokens (List.mem_map_of_mem hb) htoken

theorem ListedPoint.mem_tokens {point : ListedPoint} {token : Token}
    (h : token ∈ point.position.tokens) : token ∈ point.tokens := by
  cases point with
  | bare p => exact h
  | enclosed p => exact List.mem_cons_of_mem _ (List.mem_append_left _ h)

theorem Content.mem_tokens {c : Content} {p : Position} (hp : p ∈ c.positions) {token : Token}
    (htoken : token ∈ p.tokens) : token ∈ c.tokens := by
  cases c with
  | point position => exact mem_bodyTokens (List.mem_map_of_mem hp) htoken
  | multiPoint points =>
    obtain ⟨point, hpoint, rfl⟩ := List.mem_map.mp hp
    exact mem_bodyTokens (List.mem_map_of_mem hpoint) (ListedPoint.mem_tokens htoken)
  | lineString line => exact mem_bodyTokens (List.mem_map_of_mem hp) htoken
  | linearRing ring => exact mem_bodyTokens (List.mem_map_of_mem hp) htoken
  | multiLineString rows =>
    obtain ⟨row, hrow, hp⟩ := List.mem_flatMap.mp hp
    exact mem_bodyTokens (List.mem_map_of_mem hrow) (Row.mem_tokens hp htoken)
  | polygon rows =>
    obtain ⟨row, hrow, hp⟩ := List.mem_flatMap.mp hp
    exact mem_bodyTokens (List.mem_map_of_mem hrow) (Row.mem_tokens hp htoken)
  | multiPolygon polygons =>
    obtain ⟨polygon, hpolygon, hp⟩ := List.mem_flatMap.mp hp
    obtain ⟨row, hrow, hp⟩ := List.mem_flatMap.mp hp
    exact mem_bodyTokens (List.mem_map_of_mem hpolygon)
      (Row.mem_tokens hrow (Row.mem_tokens hp htoken))

/-- The tokens of a position are among those of the tree. -/
theorem Tree.mem_tokens {t : Tree} {p : Position} (hp : p ∈ t.positions) {token : Token}
    (htoken : token ∈ p.tokens) : token ∈ t.tokens := by
  match t with
  | simple heading c =>
    rw [Tree.positions] at hp
    rw [Tree.tokens]
    exact List.mem_append_right _ (Content.mem_tokens hp htoken)
  | collection heading children =>
    rw [Tree.positions] at hp
    rw [Tree.tokens]
    obtain ⟨child, hchild, hp⟩ := List.mem_flatMap.mp hp
    exact List.mem_append_right _
      (mem_bodyTokens (List.mem_map_of_mem hchild) (Tree.mem_tokens hp htoken))
termination_by sizeOf t
decreasing_by
  have := List.sizeOf_lt_of_mem hchild
  simp only [collection.sizeOf_spec]
  omega

/-! ## Numbers of a text -/

theorem not_isAlpha_of_isDecimalDigit {c : Char} (h : Text.isDecimalDigit c = true) :
    c.isAlpha = false := by
  have hletters : ∀ n : Fin 123, 65 ≤ n.val →
      (Text.digitZeros.any fun first => first ≤ n.val && n.val < first + 10) = false := by
    decide +kernel
  rw [Bool.eq_false_iff]
  intro halpha
  have hrange : 65 ≤ c.toNat ∧ c.toNat < 123 := by
    have hcode := toNat_of_isAlpha halpha
    omega
  rw [Text.isDecimalDigit, Bool.or_eq_true] at h
  cases h with
  | inl hdigit =>
    simp [Char.isDigit, UInt32.le_iff_toNat_le] at hdigit
    omega
  | inr hany =>
    rw [hletters ⟨c.toNat, hrange.2⟩ hrange.1] at hany
    cases hany

theorem toLower_of_not_isAlpha {c : Char} (h : c.isAlpha = false) : c.toLower = c := by
  unfold Char.toLower
  split
  · rename_i hupper
    simp [Char.isAlpha, Char.isUpper] at h
    exact absurd hupper.2 (UInt32.not_le.mpr (h.1 hupper.1))
  · rfl

/-- A number that does not start with a letter is none of the words. -/
theorem isNaN_of_readSize? {c : Char} {cs : List Char} {x : Float} (hc : c.isAlpha = false)
    (h : Decimal.readSize? (c :: cs) = some x) : x.isNaN = false := by
  have hword : ∀ d ds, d.isAlpha = true → (c :: cs).map Char.toLower ≠ d :: ds := by
    intro d ds hd heq
    rw [List.map_cons, toLower_of_not_isAlpha hc, List.cons.injEq] at heq
    rw [heq.1, hd] at hc
    cases hc
  unfold Decimal.readSize? at h
  dsimp only at h
  rw [if_neg, if_neg] at h
  · obtain ⟨-, h⟩ := Option.ite_none_left_eq_some.mp h
    obtain ⟨e, -, rfl⟩ := Option.map_eq_some_iff.mp h
    exact Decimal.isNaN_nearest _ _
  · exact hword 'n' _ rfl
  · rintro (heq | heq)
    · exact hword 'i' _ rfl heq
    · exact hword 'i' _ rfl heq

theorem isNaN_of_readFloat? {text : List Char} {x : Float}
    (hsize : ∀ y, Decimal.readSize? (Decimal.splitSign text).2 = some y → y.isNaN = false)
    (h : Decimal.readFloat? text = some x) : x.isNaN = false := by
  unfold Decimal.readFloat? at h
  generalize Decimal.splitSign text = sign at hsize h
  obtain ⟨y, hy, rfl⟩ := Option.map_eq_some_iff.mp h
  split
  · exact Decimal.isNaN_neg (hsize y hy)
  · exact hsize y hy

theorem isDecimalDigit_of_spanDecimals {cs digits rest : List Char}
    (h : spanDecimals cs = (digits, rest)) : ∀ c ∈ digits, Text.isDecimalDigit c = true := by
  rw [spanDecimals, List.span_eq_takeWhile_dropWhile, Prod.mk.injEq] at h
  rw [← h.1]
  exact List.all_eq_true.mp List.all_takeWhile

/-- The digits of a number start with a digit or the point. -/
theorem head_of_splitMantissa? {cs mantissa rest : List Char}
    (h : splitMantissa? cs = some (mantissa, rest)) :
    ∃ c more, mantissa = c :: more ∧ (c = '.' ∨ Text.isDecimalDigit c = true) := by
  unfold splitMantissa? at h
  cases hspan : spanDecimals cs with
  | mk whole after =>
    rw [hspan] at h
    cases whole with
    | nil =>
      split at h
      · rw [Option.ite_none_left_eq_some] at h
        obtain ⟨-, heq⟩ := h
        cases heq
        exact ⟨_, _, rfl, .inl rfl⟩
      · cases h
      · rename_i hwhole heq
        cases heq
        exact absurd rfl hwhole
      · rename_i hwhole _ heq
        cases heq
        exact absurd rfl hwhole
    | cons c more =>
      have hc := isDecimalDigit_of_spanDecimals hspan c (List.mem_cons_self ..)
      split at h
      · rename_i heq
        cases heq
      · rename_i heq
        cases heq
      · rename_i heq
        cases heq
        cases h
        exact ⟨c, _, rfl, .inr hc⟩
      · rename_i heq
        cases heq
        cases h
        exact ⟨c, _, rfl, .inr hc⟩

theorem splitSign_spanSign {c : Char} (hminus : c ≠ '-') (hplus : c ≠ '+') (cs more : List Char) :
    (Decimal.splitSign ((spanSign cs).1 ++ c :: more)).2 = c :: more := by
  unfold spanSign
  split
  · rfl
  · rfl
  · rw [List.nil_append, Decimal.splitSign]
    · exact fun rest heq => hminus (List.cons.inj heq).1
    · exact fun rest heq => hplus (List.cons.inj heq).1

/-- A number of a text is no NaN. -/
theorem isNaN_of_number {cs text rest : List Char} {x : Float}
    (hsplit : splitNumber? cs = some (text, rest)) (h : Decimal.readFloat? text = some x) :
    x.isNaN = false := by
  obtain ⟨⟨mantissa, rest'⟩, hmantissa, hsplit⟩ := Option.bind_eq_some_iff.mp hsplit
  obtain ⟨c, more, rfl, hc⟩ := head_of_splitMantissa? hmantissa
  obtain ⟨exponent, rfl⟩ : ∃ exponent, text = (spanSign cs).1 ++ c :: (more ++ exponent) := by
    simp only [Option.some.injEq, Prod.mk.injEq] at hsplit
    exact ⟨_, by rw [← hsplit.1, List.append_assoc]; rfl⟩
  have halpha : c.isAlpha = false := by
    cases hc with
    | inl hpoint =>
      subst hpoint
      rfl
    | inr hdigit => exact not_isAlpha_of_isDecimalDigit hdigit
  have hsign : c ≠ '-' ∧ c ≠ '+' := by
    constructor <;>
    · rintro rfl
      cases hc with
      | inl hpoint => cases hpoint
      | inr hdigit => exact absurd hdigit (by decide +kernel)
  refine isNaN_of_readFloat? (fun y hy => ?_) h
  rw [splitSign_spanSign hsign.1 hsign.2] at hy
  exact isNaN_of_readSize? halpha hy

/-- No number token is NaN. -/
theorem isNaN_of_tokensFrom {fuel offset : Nat} {cs : List Char} {ts : List Lexeme}
    (h : tokensFrom fuel offset cs = .ok ts) :
    ∀ l ∈ ts, ∀ x, l.token = .number x → x.isNaN = false := by
  induction fuel generalizing offset cs ts with
  | zero =>
    cases h
    exact fun l hl => absurd hl List.not_mem_nil
  | succ fuel ih =>
    cases cs with
    | nil =>
      cases h
      exact fun l hl => absurd hl List.not_mem_nil
    | cons c cs =>
      have hstep : ∀ {finish rest token}, (∀ x, token = .number x → x.isNaN = false) →
          (do
            let more ← tokensFrom fuel finish rest
            .ok (⟨offset, token⟩ :: more)) = Except.ok ts →
          ∀ l ∈ ts, ∀ x, l.token = .number x → x.isNaN = false := by
        intro finish rest token htoken h
        obtain ⟨more, hmore, h⟩ := exists_of_bind h
        cases h
        exact List.forall_mem_cons.mpr ⟨htoken, ih hmore⟩
      unfold tokensFrom at h
      dsimp only at h
      split at h
      · exact ih h
      · split at h
        · exact hstep (fun x hx => by cases hx) h
        · split at h
          · exact hstep (fun x hx => by cases hx) h
          · split at h
            · exact hstep (fun x hx => by cases hx) h
            · split at h
              · exact hstep (fun x hx => by cases hx) h
              · split at h
                · cases h
                · rename_i hsplit
                  split at h
                  · cases h
                  · rename_i y hread
                    refine hstep (fun x hx => ?_) h
                    cases hx
                    exact isNaN_of_number hsplit hread

/-- Neither number of a position is NaN. -/
theorem isNaN_of_writtenBy {t : Tree} {text : String} (h : t.WrittenBy text) :
    ∀ p ∈ t.positions, p.x.isNaN = false ∧ p.y.isNaN = false := by
  obtain ⟨ts, htokens, hplain⟩ := h
  have hnumber : ∀ x, .number x ∈ t.tokens → x.isNaN = false := by
    intro x hx
    rw [← hplain] at hx
    obtain ⟨l, hl, hlx⟩ := List.mem_map.mp hx
    exact isNaN_of_tokensFrom htokens l hl x hlx
  intro p hp
  have hx : .number p.x ∈ p.tokens := List.mem_cons_self ..
  have hy : .number p.y ∈ p.tokens := List.mem_cons_of_mem _ (List.mem_cons_self ..)
  exact ⟨hnumber _ (Tree.mem_tokens hp hx), hnumber _ (Tree.mem_tokens hp hy)⟩

/-- The coordinates that are read are those of the positions that the text writes. -/
theorem coords_of_decode {t : Tree} {text : String} (h : t.WrittenBy text)
    {features : List Feature} (hdecode : decode text = .ok features) :
    features.flatMap Feature.coords = t.positions.map Position.coord := by
  obtain ⟨t', hwritten, hdepth⟩ := exists_writtenBy_of_decode hdecode
  obtain rfl := h.unique hwritten
  rw [decode_of_writtenBy h hdepth, Except.ok.injEq] at hdecode
  subst hdecode
  rw [← Tree.coords_geometry]
  cases t.geometry <;> simp [Feature.coords]

end GeoDrafts.Wkt
