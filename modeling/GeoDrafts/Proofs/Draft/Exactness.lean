import GeoDrafts.Proofs.Draft.Extent
import GeoDrafts.Proofs.Format.GeoJson.Feature
import GeoDrafts.Proofs.Json.Spelling

/-!
Numbers as identifiers. Whole numbers are kept as texts without loss, but a number of a document
becomes a double. So the identifier of a feature is exact if it is a double, and a literal has the
index that it says where rounding changes nothing.
-/

namespace GeoDrafts

open Decimal

/-! ## Whole numbers -/

/-- A whole number of a document denotes its index if it is a double. -/
theorem index?_whole_iff {n : ℕ} (hn : n < 2 ^ 64) :
    (Json.number (.whole n)).index? = some n ↔ IsDouble n := by
  change naturalOfFloat? (Float.ofNat n) = some n ↔ IsDouble n
  rw [naturalOfFloat?_eq_some_iff]
  constructor
  · intro h
    exact isDouble_of_value? h.1
  · intro h
    exact ⟨(holds_float_ofNat h).value?, hn⟩

theorem first_indicesFor (request : Option ℕ) (rest : List (Option ℕ)) :
    (indicesFor [] (request :: rest)).head? =
      some (request.getD (leastMissing ((request :: rest).filterMap id))) := by
  cases request <;> simp [indicesFor, freshScan, Option.filter]

/-- The first of some drafts that all ask for the same whole number. -/
theorem first_id_iff {batch : List NewDraft} {reproject : Bool} {n : ℕ} (hn : n < 2 ^ 64)
    (hids : ∀ d ∈ batch, d.id = some (.number (Float.ofInt n))) {t : TaskDraft}
    {rest : List TaskDraft} (hadded : (DraftStore.empty.addTasks batch reproject).1 = t :: rest) :
    t.id = toString n ↔ IsDouble n := by
  have hindex : ∀ d ∈ batch, d.index? = (Json.number (.whole n)).index? := by
    intro d hd
    rw [NewDraft.index?, hids d hd]
    rfl
  have hid : (DraftStore.empty.addTasks batch reproject).1.map (·.id) =
      (DraftStore.empty.assignAll batch).map toString := DraftStore.map_id_added
  rw [hadded, DraftStore.assignAll_eq_indicesFor] at hid
  have hhead := congrArg List.head? hid
  cases batch with
  | nil => cases hadded
  | cons d ds =>
    obtain ⟨hd, hds⟩ := List.forall_mem_cons.mp hindex
    rw [List.map_cons, List.map_cons, List.head?_map, show DraftStore.empty.indices = [] from rfl,
      first_indicesFor, List.head?_cons, Option.map_some, Option.some.injEq, hd] at hhead
    rw [hhead, toString_nat_inj, ← index?_whole_iff hn]
    cases hrequest : (Json.number (.whole n)).index? with
    | some m => rw [Option.getD_some, Option.some.injEq]
    | none =>
      -- The draft gets the smallest index, 0. But the number 0 denotes an index.
      have hnone : (none :: ds.map NewDraft.index?).filterMap id = [] := by
        rw [List.filterMap_eq_nil_iff, List.forall_mem_cons, List.forall_mem_map]
        exact ⟨rfl, fun d hd => (hds d hd).trans hrequest⟩
      have hzero : leastMissing [] = 0 :=
        Nat.le_zero.mp ((leastMissing_isLeast []).2 List.not_mem_nil)
      rw [Option.getD_none, hnone, hzero]
      refine iff_of_false ?_ (Option.some_ne_none n).symm
      rintro rfl
      rw [(index?_whole_iff hn).mpr (isDouble_of_lt (by decide))] at hrequest
      cases hrequest

/-! ## Features with an identifier -/

theorem Json.eq_text {v : Option Json} {s : String} (h : v.bind Json.text? = some s) :
    v = some (.text s) := by
  obtain ⟨w, rfl, hw⟩ := Option.bind_eq_some_iff.mp h
  cases w with
  | text t => rw [Option.some.inj hw]
  | _ => cases hw

def Json.whole? : Json → Option ℤ
  | .number (.whole n) => some n
  | _ => none

theorem Json.eq_whole {v : Option Json} {n : ℤ} (h : v.bind Json.whole? = some n) :
    v = some (.number (.whole n)) := by
  obtain ⟨w, rfl, hw⟩ := Option.bind_eq_some_iff.mp h
  unfold Json.whole? at hw
  split at hw
  · rw [Option.some.inj hw]
  · cases hw

namespace GeoJson

/-- A feature that bounds an area and has a whole number as its identifier, among its properties or
else beside them. -/
structure Identifies (v : Json) (n : ℕ) : Prop where
  type : v.member? "type" = some (.text "Feature")
  geometry : ∃ w g, v.member? "geometry" = some w ∧ readGeometry w = .ok g ∧ g.areas ≠ []
  id : ((v.member? "properties").bind (Json.member? "id")).or (v.member? "id") =
    some (.number (.whole n))

variable {v : Json} {n : ℕ}

theorem readGeometry_polygon {coordinates : Json} {rings : List Ring}
    (htype : v.member? "type" = some (.text "Polygon"))
    (hcoordinates : v.member? "coordinates" = some coordinates)
    (hlines : Position.lines coordinates = .ok rings) :
    readGeometry v = .ok (.polygon rings) := by
  refine readGeometry_of_readSimple (by decide) htype hcoordinates ?_
  dsimp only [readSimple]
  rw [hlines]
  rfl

theorem Identifies.exists_feature (h : Identifies v n) : ∃ f, decodeValue v = .ok [f] ∧
    f.normalize ≠ [] ∧ f.properties.find? "id" = some (.number (.whole n)) := by
  obtain ⟨w, g, hw, hg, hareas⟩ := h.geometry
  refine ⟨⟨some g, allProperties v⟩, ?_, ?_, find?_allProperties.trans h.id⟩
  · have hkind : ¬ "Feature" = "FeatureCollection" := by decide
    simp only [decodeValue, typeOf_of_member? h.type, bind, Except.bind, if_neg hkind, if_pos,
      readFeature_of_geometry h.type hw hg, Except.map]
  · rw [Feature.normalize, Ne, List.map_eq_nil_iff]
    exact hareas

/-- A payload of such a feature is recognised. -/
theorem Identifies.detect? (h : Identifies v n) {payload : ByteArray} {text : String}
    (htext : payloadText? payload = some text) (hread : Json.read? text = some v) :
    ∃ f, detect? PayloadFormat.all payload = some (.geoJson, [f]) ∧ f.normalize ≠ [] ∧
      f.properties.find? "id" = some (.number (.whole n)) := by
  obtain ⟨f, hdecode, hareas, hid⟩ := h.exists_feature
  refine ⟨f, ?_, hareas, hid⟩
  have hfeatures : PayloadFormat.geoJson.features? text = some [f] := by
    rw [PayloadFormat.features?, PayloadFormat.decode, decode, hread]
    dsimp only
    rw [hdecode]
  rw [GeoDrafts.detect?, htext, Option.bind_some, detectText?, PayloadFormat.all,
    List.findSome?_cons, hfeatures]
  rfl

end GeoJson

/-- **The identifier of a feature** with a whole number, of which there may be several areas. -/
theorem first_id_of_feature {c : Command} {payload : ByteArray} {text : String} {v : Json} {n : ℕ}
    (hn : n < 2 ^ 64) (hc : c.loaded? = some payload) (htext : payloadText? payload = some text)
    (hread : Json.read? text = some v) (h : GeoJson.Identifies v n) :
    ∃ t rest, (c.run .empty).1 = .ok (.drafts (t :: rest)) ∧
      (c.run .empty).2.tasks = t :: rest ∧ (t.id = toString n ↔ IsDouble n) := by
  obtain ⟨f, hdetect, hareas, hid⟩ := h.detect? htext hread
  have hall : Feature.normalizeAll [f] = f.normalize := List.append_nil _
  rw [Command.run_of_loaded? hc, DraftStore.addPayload_of_areas hdetect (hall ▸ hareas), hall]
  have hids : ∀ d ∈ f.normalize.map NewDraft.ofFeature, d.id = some (.number (Float.ofInt n)) := by
    rw [List.forall_mem_map]
    intro p hp
    have hproperties : p.properties = f.properties := by
      unfold Feature.normalize at hp
      split at hp
      · cases hp
      · obtain ⟨area, -, rfl⟩ := List.mem_map.mp hp
        rfl
    rw [NewDraft.ofFeature, hproperties, hid]
    rfl
  cases hadded : (DraftStore.empty.addTasks (f.normalize.map .ofFeature) true).1 with
  | nil =>
    have hlength := DraftStore.length_added .empty (f.normalize.map NewDraft.ofFeature) true
    rw [hadded, List.length_map] at hlength
    exact absurd (List.length_eq_zero_iff.mp hlength.symm) hareas
  | cons t rest =>
    refine ⟨t, rest, ?_, ?_, first_id_iff hn hids hadded⟩
    · simp only [Prod.map_fst, hadded]
      rfl
    · simp only [Prod.map_snd, id_eq, DraftStore.tasks_addTasks, hadded]
      rfl

/-- **Identifiers that are numbers.** The decimal text of a number of 64 bits denotes it. In a
document it denotes its index just if it is a double, and so the draft of a GeoJSON feature has the
decimal text of its identifier just if that is a double. Any literal has the index that it says
where rounding changes nothing: as a text if it is digits by themselves or its value survives, as a
number of a document if it is short as well. Otherwise it is off by one rounding at most as a text,
and by a few in a document, where an exponent below all that is read is taken for zero. -/
theorem index_exact_where_unrounded (n : ℕ) :
    (n < 2 ^ 64 →
      indexOfText? (toString n) = some n ∧
      ((Json.read? (toString n)).bind Json.index? = some n ↔ IsDouble n) ∧
      ∀ (c : Command) (payload : ByteArray) (text : String) (v : Json),
        c.loaded? = some payload → payloadText? payload = some text →
        Json.read? text = some v → GeoJson.Identifies v n →
        ∃ t rest, (c.run .empty).1 = .ok (.drafts (t :: rest)) ∧
          (c.run .empty).2.tasks = t :: rest ∧ (t.id = toString n ↔ IsDouble n)) ∧
    ∀ (l : Json.Literal) (cs : List Char), l.WrittenBy cs →
      (∀ s : String, Text.trimChars s.toList = cs →
        ((∀ c ∈ cs, c.isDigit = true ∨ c = '+') ∨ Survives l.size →
          (indexOfText? s = some n ↔ l.value = n ∧ n < 2 ^ 64)) ∧
        (indexOfText? s = some n →
          n = 0 ∧ |l.value| ≤ 2 ^ (-1075 : ℤ) ∨ |l.value - n| * 2 ^ 53 ≤ n)) ∧
      ∀ v, Json.read? (String.ofList cs) = some v →
        (l.IsShort → Survives l.size → (v.index? = some n ↔ l.value = n ∧ n < 2 ^ 64)) ∧
        (v.index? = some n →
          n = 0 ∧ (|l.value| ≤ 2 ^ (-900 : ℤ) ∨ l.writtenExponent ≤ -2 ^ 31) ∨
            |l.value - n| * 2 ^ 50 ≤ n) := by
  constructor
  · intro hn
    refine ⟨indexOfText?_toString hn, ?_, ?_⟩
    · rw [Json.read?_toString hn, Option.bind_some, index?_whole_iff hn]
    · intro c payload text v hc htext hread hv
      exact first_id_of_feature hn hc htext hread hv
  · intro l cs hcs
    refine ⟨?_, fun v hv => ⟨fun hshort hsurvives => ?_, Json.error_of_read? hcs hv⟩⟩
    · rintro s rfl
      exact ⟨fun hl => Json.indexOfText?_of_writtenBy hcs hl, Json.error_of_indexOfText? hcs⟩
    · exact Json.index?_of_read? hcs hshort hsurvives hv

/-- An even identifier above `2 ^ 53`, digits with a plus sign, and a literal with a point and an
exponent. -/
theorem index_exact_of_feature :
    let text := "\x7b\"type\":\"Feature\",\"id\":9007199254740994," ++
      "\"geometry\":\x7b\"type\":\"Polygon\",\"coordinates\":[[[0,1]]]\x7d\x7d"
    (∃ t rest, ((Command.addPayload text.toUTF8).run .empty).2.tasks = t :: rest ∧
      t.id = toString 9007199254740994) ∧
    indexOfText? " +007 " = some 7 ∧
    ∀ v, Json.read? (String.ofList ['1', '.', '5', '0', 'e', '1']) = some v →
      v.index? = some 15 := by
  intro text
  refine ⟨?_, ?_, ?_⟩
  · have hread : (Json.read? text).map (fun v =>
        (((v.member? "type").bind Json.text?, (v.member? "id").bind Json.whole?,
          (v.member? "properties").isSome),
        ((v.member? "geometry").bind fun w => (w.member? "type").bind Json.text?,
          (v.member? "geometry").bind fun w =>
            (w.member? "coordinates").bind fun c => (Position.lines c).toOption))) =
        some ((some "Feature", some 9007199254740994, false),
          (some "Polygon", some [[⟨0, 1⟩]])) := by
      decide +kernel
    have htext : payloadText? text.toUTF8 = some text := by decide +kernel
    obtain ⟨v, hv, heq⟩ := Option.map_eq_some_iff.mp hread
    simp only [Prod.mk.injEq] at heq
    obtain ⟨⟨htype, hid, hproperties⟩, hkind, hcoordinates⟩ := heq
    have hidentifies : GeoJson.Identifies v 9007199254740994 := by
      obtain ⟨w, hw, hkind⟩ := Option.bind_eq_some_iff.mp hkind
      obtain ⟨w', hw', hcoordinates⟩ := Option.bind_eq_some_iff.mp hcoordinates
      obtain rfl : w = w' := Option.some.inj (hw.symm.trans hw')
      obtain ⟨coordinates, hcoordinates, hlines⟩ := Option.bind_eq_some_iff.mp hcoordinates
      have hgeometry : GeoJson.readGeometry w = .ok (.polygon [[⟨0, 1⟩]]) :=
        GeoJson.readGeometry_polygon (Json.eq_text hkind) hcoordinates (ok_of_toOption hlines)
      refine ⟨Json.eq_text htype, ⟨w, _, hw, hgeometry, List.cons_ne_nil _ _⟩, ?_⟩
      rw [Option.isSome_eq_false_iff, Option.isNone_iff_eq_none] at hproperties
      rw [hproperties, Json.eq_whole hid]
      rfl
    obtain ⟨t, rest, -, htasks, hiff⟩ := ((index_exact_where_unrounded 9007199254740994).1
      (by decide)).2.2 (.addPayload text.toUTF8) _ text v rfl htext hv hidentifies
    refine ⟨t, rest, htasks, hiff.mpr ⟨4503599627370497, 1, by decide, by decide, by decide, ?_⟩⟩
    norm_num
  · have hdigits : ∀ d ∈ ['0', '0', '7'], d.isDigit = true := List.all_eq_true.mp (by decide)
    have hl : Json.Literal.WrittenBy ⟨false, ['0', '0', '7'], [], none⟩ ('+' :: ['0', '0', '7']) :=
      Json.Literal.WrittenBy.parts (l := ⟨false, ['0', '0', '7'], [], none⟩) .plus .none .none
        (List.cons_ne_nil _ _) hdigits
    have hplain : ∀ c ∈ '+' :: ['0', '0', '7'], c.isDigit = true ∨ c = '+' :=
      List.forall_mem_cons.mpr ⟨.inr rfl, fun c hc => .inl (hdigits c hc)⟩
    have hvalue : Json.Literal.value ⟨false, ['0', '0', '7'], [], none⟩ = (7 : ℕ) := by
      have hdigits : Json.Literal.digits ⟨false, ['0', '0', '7'], [], none⟩ = 7 := by decide
      have hpower : Json.Literal.power ⟨false, ['0', '0', '7'], [], none⟩ = 0 := by decide
      rw [Json.Literal.value, Json.Literal.size, hdigits, hpower]
      norm_num
    exact ((((index_exact_where_unrounded 7).2 _ _ hl).1 " +007 " (by decide +kernel)).1
      (.inl hplain)).mpr ⟨hvalue, by decide⟩
  · intro v hv
    have hexponent : Json.WritesExponent (some (false, ['1'])) ['e', '1'] :=
      .mark (.inl rfl) .none (List.cons_ne_nil _ _) (List.all_eq_true.mp (by decide))
    have hl : Json.Literal.WrittenBy ⟨false, ['1'], ['5', '0'], some (false, ['1'])⟩
        ['1', '.', '5', '0', 'e', '1'] :=
      Json.Literal.WrittenBy.parts (l := ⟨false, ['1'], ['5', '0'], some (false, ['1'])⟩) .none
        (.point _) hexponent (List.cons_ne_nil _ _) (List.all_eq_true.mp (by decide))
    have hdigits : Json.Literal.digits ⟨false, ['1'], ['5', '0'], some (false, ['1'])⟩ = 150 := by
      decide
    have hpower : Json.Literal.power ⟨false, ['1'], ['5', '0'], some (false, ['1'])⟩ = -1 := by
      decide
    have hsize : Json.Literal.size ⟨false, ['1'], ['5', '0'], some (false, ['1'])⟩ = (15 : ℕ) := by
      rw [Json.Literal.size, hdigits, hpower]
      norm_num
    have hdouble : IsDouble (15 : ℕ) := isDouble_of_lt (by decide)
    refine ((((index_exact_where_unrounded 15).2 _ _ hl).2 v hv).1 ?_ (.inl (hsize ▸ hdouble))).mpr
      ⟨hsize, by decide⟩
    exact ⟨hdigits ▸ isDouble_of_lt (by decide), by omega, .inr (by omega)⟩

/-- An odd identifier above `2 ^ 53` is taken for its even neighbour. -/
theorem index_of_rounded_number :
    (Json.read? "9007199254740993").bind Json.index? = some 9007199254740992 ∧
      ¬ ∀ n < 2 ^ 64, (Json.read? (toString n)).bind Json.index? = some n := by
  have hrounded : (Json.read? "9007199254740993").bind Json.index? = some 9007199254740992 := by
    decide +kernel
  refine ⟨hrounded, fun hall => ?_⟩
  have hexact := hall 9007199254740993 (by decide)
  rw [show toString 9007199254740993 = "9007199254740993" by decide +kernel, hrounded] at hexact
  exact absurd (Option.some.inj hexact) (by decide)

end GeoDrafts
