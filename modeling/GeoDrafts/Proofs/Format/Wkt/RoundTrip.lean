import GeoDrafts.Proofs.Decimal.Expansion
import GeoDrafts.Proofs.Format.Wkt.Rendering
import GeoDrafts.Proofs.Json.Spelling

/-!
From geometries to well-known text and back. Every geometry with finite coordinates can be written,
unless a list inside it is empty, for which there is no text; and it is read back from each of its
texts.
-/

namespace GeoDrafts

namespace Geometry

mutual

/-- Every list inside a geometry has an item. Only its own list, or that of a child, may be
empty. -/
def InnerNonEmpty : Geometry → Prop
  | .multiLineString lines | .polygon lines => ∀ line ∈ lines, line ≠ []
  | .multiPolygon polygons => ∀ rings ∈ polygons, rings ≠ [] ∧ ∀ ring ∈ rings, ring ≠ []
  | .collection children => InnerNonEmptyOfAll children
  | _ => True

def InnerNonEmptyOfAll : List Geometry → Prop
  | [] => True
  | g :: gs => InnerNonEmpty g ∧ InnerNonEmptyOfAll gs

end

end Geometry

namespace Wkt

/-! ## A text for every geometry -/

theorem numberText_digits {negative : Bool} {sign digits power : List Char}
    (hsign : Json.WritesSign negative sign) (hne : digits ≠ []) (hpower : power ≠ [])
    (hdigits : ∀ d ∈ digits, d.isDigit = true) (hpowers : ∀ d ∈ power, d.isDigit = true) :
    NumberText (sign ++ (digits ++ 'e' :: '-' :: power)) := by
  have hdecimal : ∀ {cs : List Char}, (∀ d ∈ cs, d.isDigit = true) →
      ∀ d ∈ cs, Text.isDecimalDigit d = true :=
    fun hcs d hd => Text.isDecimalDigit_of_isDigit (hcs d hd)
  have hexponent : ExponentText ('e' :: (['-'] ++ power)) :=
    .mark (.inl rfl) (.inr (.inl rfl)) hpower (hdecimal hpowers)
  refine .parts ?_ (.whole hne (hdecimal hdigits)) hexponent
  cases hsign with
  | none => exact .inl rfl
  | plus => exact .inr (.inr rfl)
  | minus => exact .inr (.inl rfl)

theorem exists_writesNumber {x : Float} (h : x.isFinite = true) : ∃ cs, WritesNumber x cs := by
  obtain ⟨digits, k, negative, hx⟩ := Decimal.exists_nearest_eq h
  obtain ⟨sign, hsign⟩ : ∃ sign, Json.WritesSign negative sign := by
    cases negative with
    | false => exact ⟨_, .none⟩
    | true => exact ⟨_, .minus⟩
  let l : Json.Literal := ⟨negative, Nat.toDigits 10 digits, [], some (true, Nat.toDigits 10 k)⟩
  have hdigits := Decimal.all_isDigit_toDigits digits
  have hpowers := Decimal.all_isDigit_toDigits k
  have hne : l.whole ++ l.fraction ≠ [] := by simp [l, Nat.toDigits_ne_nil]
  have hwritten : l.WrittenBy (sign ++ (Nat.toDigits 10 digits ++ ([] ++
      'e' :: (['-'] ++ Nat.toDigits 10 k)))) :=
    .parts hsign .none (.mark (.inl rfl) .minus Nat.toDigits_ne_nil hpowers) hne
      (by simpa [l] using hdigits)
  have hvalue : l.digits = digits ∧ l.power = -(k : ℤ) := by
    simp [l, Json.Literal.digits, Json.Literal.power, Json.Literal.writtenExponent,
      Decimal.digitsValue_toDigits]
  have hread := Json.readFloat?_of_writtenBy hwritten
  rw [hvalue.1, hvalue.2, hx] at hread
  exact ⟨_, numberText_digits hsign Nat.toDigits_ne_nil Nat.toDigits_ne_nil hdigits hpowers, hread⟩

theorem exists_writesPosition {c : Coord} (h : c.IsFinite) : ∃ cs, WritesPosition c cs := by
  obtain ⟨x, hx⟩ := exists_writesNumber h.1
  obtain ⟨y, hy⟩ := exists_writesNumber h.2
  exact ⟨[' '].intercalate [x, y], .numbers hx hy (by simp) (by simp)⟩

theorem exists_writesList {α : Type} {write : α → List Char → Prop} {as : List α} (hne : as ≠ [])
    (h : ∀ a ∈ as, ∃ cs, write a cs) : ∃ cs, WritesList write as cs := by
  obtain ⟨texts, htexts⟩ := exists_forall₂ h
  exact ⟨_, hne, texts, htexts, rfl⟩

theorem writesHeading_kindWord (kind : GeometryKind) :
    WritesHeading kind (kindWord kind).toList := by
  have hword : WritesWord (kindWord kind ++ Dimensions.unsaid.letters) (kindWord kind).toList := by
    refine ⟨List.all_eq_true.mp ?_, ?_⟩ <;> cases kind <;> decide
  exact .name .unsaid hword

theorem exists_writesBody (items : List (List Char)) : ∃ body, WritesBody items body := by
  have hword : WritesWord "EMPTY" "EMPTY".toList := ⟨List.all_eq_true.mp (by decide), by decide⟩
  cases items with
  | nil => exact ⟨_, .empty hword⟩
  | cons item more => exact ⟨_, .items⟩

theorem exists_writes_of_items {α : Type} {write : α → List Char → Prop} {as : List α} {g : Geometry}
    (h : ∀ a ∈ as, ∃ cs, write a cs)
    (hwrites : ∀ {heading items body}, WritesHeading g.kind heading →
      List.Forall₂ write as items → WritesBody items body → Writes g (heading ++ body)) :
    ∃ cs, Writes g cs := by
  obtain ⟨items, hitems⟩ := exists_forall₂ h
  obtain ⟨body, hbody⟩ := exists_writesBody items
  exact ⟨_, hwrites (writesHeading_kindWord g.kind) hitems hbody⟩

theorem exists_writesLine {line : Ring} (hne : line ≠ []) (h : ∀ c ∈ line, c.IsFinite) :
    ∃ cs, WritesList WritesPosition line cs :=
  exists_writesList hne fun c hc => exists_writesPosition (h c hc)

mutual

theorem exists_writes (g : Geometry) (hfinite : g.IsFinite) (hinner : g.InnerNonEmpty) :
    ∃ cs, Writes g cs := by
  cases g with
  | point c =>
    obtain ⟨item, hitem⟩ := exists_writesPosition (hfinite c List.mem_cons_self)
    exact ⟨_, .point (writesHeading_kindWord .point) hitem .items⟩
  | multiPoint cs =>
    refine exists_writes_of_items (fun c hc => ?_) Writes.multiPoint
    obtain ⟨item, hitem⟩ := exists_writesPosition (hfinite c hc)
    exact ⟨item, .bare hitem⟩
  | lineString line =>
    exact exists_writes_of_items (fun c hc => exists_writesPosition (hfinite c hc)) Writes.lineString
  | linearRing ring =>
    exact exists_writes_of_items (fun c hc => exists_writesPosition (hfinite c hc)) Writes.linearRing
  | multiLineString lines =>
    exact exists_writes_of_items (fun line hline => exists_writesLine (hinner line hline)
      fun c hc => hfinite c (List.mem_flatten_of_mem hline hc)) Writes.multiLineString
  | polygon rings =>
    exact exists_writes_of_items (fun ring hring => exists_writesLine (hinner ring hring)
      fun c hc => hfinite c (List.mem_flatten_of_mem hring hc)) Writes.polygon
  | multiPolygon polygons =>
    refine exists_writes_of_items (fun rings hrings => ?_) Writes.multiPolygon
    obtain ⟨hne, hring⟩ := hinner rings hrings
    exact exists_writesList hne fun ring hmem => exists_writesLine (hring ring hmem) fun c hc =>
      hfinite c (List.mem_flatten_of_mem (List.mem_flatten_of_mem hrings hmem) hc)
  | collection children =>
    obtain ⟨items, hitems⟩ := exists_writesAll children hfinite hinner
    obtain ⟨body, hbody⟩ := exists_writesBody items
    exact ⟨_, .collection (writesHeading_kindWord .geometryCollection) hitems hbody⟩

theorem exists_writesAll (gs : List Geometry)
    (hfinite : ∀ c ∈ Geometry.coordsOfAll gs, c.IsFinite)
    (hinner : Geometry.InnerNonEmptyOfAll gs) : ∃ texts, List.Forall₂ Writes gs texts := by
  cases gs with
  | nil => exact ⟨[], .nil⟩
  | cons g gs =>
    obtain ⟨text, htext⟩ := exists_writes g (fun c hc => hfinite c (List.mem_append_left _ hc))
      hinner.1
    obtain ⟨texts, htexts⟩ := exists_writesAll gs
      (fun c hc => hfinite c (List.mem_append_right _ hc)) hinner.2
    exact ⟨text :: texts, .cons htext htexts⟩

end

/-! ## There and back -/

/-- **Reading what was written.** A geometry with finite coordinates and no empty list inside,
whose collections with children are at most 128 deep, has a text; and each of its texts is read as
one feature with that geometry and no properties. -/
theorem decode_rendering {g : Geometry} (hfinite : g.IsFinite) (hinner : g.InnerNonEmpty)
    (hnesting : g.openNesting ≤ maxCollectionDepth) :
    (∃ text : String, Writes g text.toList) ∧
      ∀ text : String, Writes g text.toList → decode text = .ok [⟨some g, []⟩] := by
  obtain ⟨cs, hcs⟩ := exists_writes g hfinite hinner
  refine ⟨⟨String.ofList cs, ?_⟩, fun text htext => decode_of_writes hnesting htext⟩
  rwa [String.toList_ofList]

/-- A point with a height and an empty polygon, in a collection. -/
theorem decode_rendering_of_collection :
    let g := Geometry.collection [.point ⟨10, -0.5⟩, .polygon []]
    let text := "GeometryCollection(POINT Z (1e1 -.5 7), polygon EMPTY)"
    g.IsFinite ∧ Writes g text.toList ∧ decode text = .ok [⟨some g, []⟩] := by
  intro g text
  have hfinite : g.IsFinite := by
    intro c hc
    obtain rfl := List.mem_singleton.mp hc
    exact ⟨by decide +kernel, by decide +kernel⟩
  have hdigits : ∀ {cs : List Char}, cs.all Text.isDecimalDigit = true →
      ∀ d ∈ cs, Text.isDecimalDigit d = true := List.all_eq_true.mp
  have hword : ∀ {word : String} {cs : List Char}, cs.all Char.isAlpha = true →
      cs.map Char.toUpper = word.toList → WritesWord word cs :=
    fun halpha hupper => ⟨List.all_eq_true.mp halpha, hupper⟩
  have hx : WritesNumber 10 ['1', 'e', '1'] := by
    have hone : ∀ d ∈ ['1'], Text.isDecimalDigit d = true := hdigits (by decide)
    have hnumber : NumberText ([] ++ (['1'] ++ 'e' :: ([] ++ ['1']))) :=
      .parts (.inl rfl) (.whole (by decide) hone) (.mark (.inl rfl) (.inl rfl) (by decide) hone)
    exact ⟨hnumber, by decide +kernel⟩
  have hy : WritesNumber (-0.5) ['-', '.', '5'] := by
    have hnumber : NumberText (['-'] ++ (['.', '5'] ++ [])) :=
      .parts (.inr (.inl rfl)) (.fraction (by decide) (hdigits (by decide))) .none
    exact ⟨hnumber, by decide +kernel⟩
  have hz : WritesNumber 7 ['7'] := by
    have hnumber : NumberText ([] ++ (['7'] ++ [])) :=
      .parts (.inl rfl) (.whole (by decide) (hdigits (by decide))) .none
    exact ⟨hnumber, by decide +kernel⟩
  have hposition : WritesPosition ⟨10, -0.5⟩ ([' '].intercalate [['1', 'e', '1'], ['-', '.', '5'],
      ['7']]) :=
    .numbers hx hy (by simpa using ⟨7, hz⟩) (by decide)
  have hpoint : Writes (.point ⟨10, -0.5⟩) (("POINT".toList ++ ' ' :: "Z".toList) ++
      ' ' :: listText [[' '].intercalate [['1', 'e', '1'], ['-', '.', '5'], ['7']]]) :=
    .point (.tagged .unsaid .z (hword (by decide) (by decide)) (by simp)
      (hword (by decide) (by decide))) hposition .spaced
  have hpolygon : Writes (.polygon []) ("polygon".toList ++ ' ' :: "EMPTY".toList) :=
    .polygon (.name .unsaid (hword (by decide) (by decide))) .nil
      (.empty (hword (by decide) (by decide)))
  have hwrites : Writes g text.toList := by
    have hcollection : Writes g ("GeometryCollection".toList ++ listText
        [("POINT".toList ++ ' ' :: "Z".toList) ++
          ' ' :: listText [[' '].intercalate [['1', 'e', '1'], ['-', '.', '5'], ['7']]],
        "polygon".toList ++ ' ' :: "EMPTY".toList]) :=
      .collection (.name .unsaid (hword (by decide) (by decide)))
        (.cons hpoint (.cons hpolygon .nil)) .items
    rwa [show "GeometryCollection".toList ++ listText
        [("POINT".toList ++ ' ' :: "Z".toList) ++
          ' ' :: listText [[' '].intercalate [['1', 'e', '1'], ['-', '.', '5'], ['7']]],
        "polygon".toList ++ ' ' :: "EMPTY".toList] = text.toList by decide] at hcollection
  exact ⟨hfinite, hwrites, (decode_rendering hfinite ⟨trivial, by simp [Geometry.InnerNonEmpty],
    trivial⟩ (by decide)).2 text hwrites⟩

end Wkt

end GeoDrafts
