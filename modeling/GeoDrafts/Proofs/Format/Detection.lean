import GeoDrafts.Proofs.Format.Wkt.Coords

/-!
What is read of a payload of unknown format. Five of the formats have finite coordinates only. In
well-known text a number too large for a double is read as infinite.
-/

namespace GeoDrafts

namespace PayloadFormat

variable {format : PayloadFormat} {text : String} {features : List Feature}

theorem features?_eq_some_iff :
    format.features? text = some features ↔ format.decode text = .ok features ∧ features ≠ [] := by
  unfold features?
  split
  · rename_i hdecode
    simp +contextual [hdecode]
  · rename_i hne hdecode
    simp only [hdecode, Option.some.injEq, Except.ok.injEq]
    exact ⟨fun h => ⟨h, h ▸ hne⟩, fun h => h.1⟩
  · rename_i hdecode
    simp [hdecode]

theorem features?_eq_none_iff :
    format.features? text = none ↔ ∀ read, format.decode text = .ok read → read = [] := by
  rw [Option.eq_none_iff_forall_ne_some]
  refine forall_congr' fun read => ?_
  rw [Ne, features?_eq_some_iff, not_and, not_not]

end PayloadFormat

theorem features?_of_detect? {formats : List PayloadFormat} {payload : ByteArray}
    {format : PayloadFormat} {features : List Feature}
    (h : detect? formats payload = some (format, features)) :
    ∃ text, payloadText? payload = some text ∧ format.features? text = some features := by
  obtain ⟨text, htext, h⟩ := Option.bind_eq_some_iff.mp h
  obtain ⟨format', -, h⟩ := List.exists_of_findSome?_eq_some h
  obtain ⟨features', hfeatures, heq⟩ := Option.map_eq_some_iff.mp h
  cases heq
  exact ⟨text, htext, hfeatures⟩

theorem decode_of_detect? {formats : List PayloadFormat} {payload : ByteArray}
    {format : PayloadFormat} {features : List Feature}
    (h : detect? formats payload = some (format, features)) :
    ∃ text, payloadText? payload = some text ∧ format.decode text = .ok features := by
  obtain ⟨text, htext, hfeatures⟩ := features?_of_detect? h
  exact ⟨text, htext, (PayloadFormat.features?_eq_some_iff.mp hfeatures).1⟩

/-- Only well-known text has coordinates that are not finite. -/
theorem isFinite_of_decode {format : PayloadFormat} (hformat : format ≠ .wkt) {text : String}
    {features : List Feature} (h : format.decode text = .ok features) :
    ∀ f ∈ features, f.IsFinite := by
  cases format with
  | geoJson => exact GeoJson.isFinite_of_decode h
  | osmXml => exact Osm.isFinite_of_decode h
  | gpx => exact Gpx.isFinite_of_decode h
  | esriJson => exact Esri.isFinite_of_decode h
  | kml => exact Kml.isFinite_of_decode h
  | wkt => exact absurd rfl hformat

theorem Coord.IsFinite.isNaN {c : Coord} (h : c.IsFinite) :
    c.x.isNaN = false ∧ c.y.isNaN = false :=
  ⟨Decimal.isNaN_of_isFinite h.1, Decimal.isNaN_of_isFinite h.2⟩

/-- **Coordinates of a payload.** All coordinates of a payload are finite just if it is no
well-known text, or a well-known text whose positions are: the first two numbers of each are small
enough for a double. None is ever NaN. -/
theorem finite_of_detect_iff {payload : ByteArray} {format : PayloadFormat}
    {features : List Feature} (h : detect? PayloadFormat.all payload = some (format, features)) :
    ((∀ f ∈ features, ∀ c ∈ f.coords, c.IsFinite) ↔
      (format = .wkt → ∀ text, payloadText? payload = some text →
        ∀ t : Wkt.Tree, t.WrittenBy text → ∀ p ∈ t.positions, p.coord.IsFinite)) ∧
    ∀ f ∈ features, ∀ c ∈ f.coords, c.x.isNaN = false ∧ c.y.isNaN = false := by
  obtain ⟨text, htext, hdecode⟩ := decode_of_detect? h
  by_cases hformat : format = .wkt
  · subst hformat
    obtain ⟨t, hwritten, -⟩ := Wkt.exists_writtenBy_of_decode hdecode
    have hcoords : ∀ c, (∃ f ∈ features, c ∈ f.coords) ↔ ∃ p ∈ t.positions, p.coord = c := by
      intro c
      rw [← List.mem_flatMap, Wkt.coords_of_decode hwritten hdecode, List.mem_map]
    constructor
    · constructor
      · intro hall _ text' htext' t' hwritten' p hp
        rw [htext, Option.some.injEq] at htext'
        subst htext'
        rw [hwritten'.unique hwritten] at hp
        obtain ⟨f, hf, hc⟩ := (hcoords p.coord).mpr ⟨p, hp, rfl⟩
        exact hall f hf _ hc
      · intro hall f hf c hc
        obtain ⟨p, hp, rfl⟩ := (hcoords c).mp ⟨f, hf, hc⟩
        exact hall rfl text htext t hwritten p hp
    · intro f hf c hc
      obtain ⟨p, hp, rfl⟩ := (hcoords c).mp ⟨f, hf, hc⟩
      exact Wkt.isNaN_of_writtenBy hwritten p hp
  · have hfinite := isFinite_of_decode hformat hdecode
    exact ⟨⟨fun _ heq => absurd heq hformat, fun _ => hfinite⟩,
      fun f hf c hc => (hfinite f hf c hc).isNaN⟩

/-- Numbers that are small enough, before one that is not and does not count. -/
theorem finite_of_detect_point :
    let payload := "POINT Z (10 53.5 1e400)".toUTF8
    ∃ features, detect? PayloadFormat.all payload = some (.wkt, features) ∧
      features.length = 1 ∧ ∀ f ∈ features, ∀ c ∈ f.coords, c.IsFinite := by
  intro payload
  let position : Wkt.Position := ⟨10, 53.5, [1.0 / 0.0], by decide⟩
  have hwritten : (Wkt.Tree.simple ⟨.unsaid, .z⟩ (.point (some position))).WrittenBy
      "POINT Z (10 53.5 1e400)" :=
    ⟨[⟨0, .word "POINT"⟩, ⟨6, .word "Z"⟩, ⟨8, .opening⟩, ⟨9, .number 10⟩, ⟨12, .number 53.5⟩,
      ⟨17, .number (1.0 / 0.0)⟩, ⟨22, .closing⟩], by decide +kernel, by rw [Wkt.Tree.tokens]; rfl⟩
  have htext : payloadText? payload = some "POINT Z (10 53.5 1e400)" := by decide +kernel
  have hfirst : (detect? PayloadFormat.all payload).map (fun r => (r.1, r.2.length)) =
      some (.wkt, 1) := by
    decide +kernel
  obtain ⟨⟨format, features⟩, h, heq⟩ := Option.map_eq_some_iff.mp hfirst
  obtain ⟨rfl, hlength⟩ := Prod.mk.inj heq
  refine ⟨features, h, hlength, (finite_of_detect_iff h).1.mpr ?_⟩
  intro _ text hsome t' hwritten' p hp
  rw [htext, Option.some.injEq] at hsome
  subst hsome
  rw [hwritten'.unique hwritten, Wkt.Tree.positions] at hp
  obtain rfl : p = position := List.mem_singleton.mp hp
  exact ⟨by decide +kernel, by decide +kernel⟩

/-- A number that is too large is read as infinite. -/
theorem detect_infinite_point :
    ∃ features, detect? PayloadFormat.all "POINT (1e400 0)".toUTF8 = some (.wkt, features) ∧
      ¬ ∀ f ∈ features, ∀ c ∈ f.coords, c.IsFinite := by
  have hinfinite : (detect? PayloadFormat.all "POINT (1e400 0)".toUTF8).map (fun r =>
      (r.1, r.2.any fun f => f.coords.any fun c => !c.x.isFinite)) = some (.wkt, true) := by
    decide +kernel
  obtain ⟨⟨format, features⟩, h, heq⟩ := Option.map_eq_some_iff.mp hinfinite
  obtain ⟨rfl, hany⟩ := Prod.mk.inj heq
  refine ⟨features, h, fun hall => ?_⟩
  obtain ⟨f, hf, hany⟩ := List.any_eq_true.mp hany
  obtain ⟨c, hc, hx⟩ := List.any_eq_true.mp hany
  rw [(hall f hf c hc).1] at hx
  cases hx

end GeoDrafts
