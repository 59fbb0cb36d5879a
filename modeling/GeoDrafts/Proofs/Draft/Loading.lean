import GeoDrafts.Proofs.Draft.Extent
import GeoDrafts.Proofs.Draft.Naming

/-!
Loading a payload, from its bytes to the stored drafts. The first format that reads anything decides
alone: its features give the areas, and each area becomes one draft.
-/

namespace GeoDrafts

/-! ## The text of a number -/

theorem Text.isBlank_of_mem {s : String} {c : Char} (hc : c ∈ s.toList)
    (h : isBlankChar c = false) : isBlank s = false :=
  List.all_eq_false.mpr ⟨c, hc, by rw [h]; decide⟩

namespace Decimal

theorem Scaled.isBlank_positionalText (s : Scaled) :
    Text.isBlank (s.positionalText true) = false := by
  apply Text.isBlank_of_mem (c := '.') _ (by decide)
  unfold positionalText
  dsimp only
  split
  · simp
  · split <;> simp

theorem Scaled.isBlank_exponentText (s : Scaled) : Text.isBlank s.exponentText = false :=
  Text.isBlank_of_mem (c := 'e') (by simp [exponentText]) (by decide)

theorem Layout.isBlank_size_document (d : Dyadic) : Text.isBlank (document.size d) = false := by
  unfold size
  split
  · decide
  · dsimp only
    split
    · exact Scaled.isBlank_positionalText _
    · exact Scaled.isBlank_exponentText _

theorem isBlank_withSign {size : Dyadic → String} (x : Float)
    (h : ∀ d, Text.isBlank (size d) = false) : Text.isBlank (withSign x size) = false := by
  unfold withSign
  split
  · decide
  · dsimp only
    split
    · exact Text.isBlank_of_mem (c := '-') (by simp) (by decide)
    · split
      · exact h _
      · decide

end Decimal

theorem Json.Number.isBlank_write (n : Number) : Text.isBlank n.write = false := by
  cases n with
  | whole n =>
    cases n with
    | ofNat n => exact Text.isBlank_toString n
    | negSucc n => exact Text.isBlank_of_mem (c := '-') (by simp [write, toString, Int.repr]) rfl
  | double x =>
    rw [write]
    split
    · exact Decimal.isBlank_withSign x Decimal.Layout.isBlank_size_document
    · decide +kernel

/-! ## The first reading -/

/-- The features are read of a payload, at least one, by the first format that reads any. -/
def PayloadFormat.FirstReads (payload : ByteArray) (features : List Feature) : Prop :=
  ∃ text before format after, payloadText? payload = some text ∧
    all = before ++ format :: after ∧ format.decode text = .ok features ∧ features ≠ [] ∧
    ∀ earlier ∈ before, ∀ read, earlier.decode text = .ok read → read = []

theorem PayloadFormat.firstReads_iff {payload : ByteArray} {features : List Feature} :
    FirstReads payload features ↔ ∃ format, detect? all payload = some (format, features) := by
  constructor
  · rintro ⟨text, before, format, after, htext, hall, hdecode, hne, hbefore⟩
    refine ⟨format, ?_⟩
    rw [detect?, htext, Option.bind_some, detectText?, List.findSome?_eq_some_iff]
    refine ⟨before, format, after, hall, ?_, fun earlier hearlier => ?_⟩
    · rw [features?_eq_some_iff.mpr ⟨hdecode, hne⟩, Option.map_some]
    · rw [features?_eq_none_iff.mpr (hbefore earlier hearlier), Option.map_none]
  · rintro ⟨format, h⟩
    obtain ⟨text, htext, hfound⟩ := Option.bind_eq_some_iff.mp h
    obtain ⟨before, found, after, hall, hmap, hbefore⟩ := List.findSome?_eq_some_iff.mp hfound
    obtain ⟨read, hread, heq⟩ := Option.map_eq_some_iff.mp hmap
    cases heq
    obtain ⟨hdecode, hne⟩ := features?_eq_some_iff.mp hread
    refine ⟨text, before, format, after, htext, hall, hdecode, hne, fun earlier hearlier => ?_⟩
    exact features?_eq_none_iff.mp (Option.map_eq_none_iff.mp (hbefore earlier hearlier))

/-! ## Areas and drafts -/

/-- The name that an area brings along: a text that is not blank, or the text of a number. -/
def PolygonFeature.givenName? (area : PolygonFeature) : Option String :=
  match area.properties.find? "name" with
  | some (.text s) => Text.nonBlank? s
  | some (.number n) => some n.write
  | _ => none

/-- The draft is what is stored of an area. -/
structure TaskDraft.Stores (area : PolygonFeature) (t : TaskDraft) : Prop where
  geometry : t.geometry = area.geometry.toProjected
  processPoints : t.processPoints = 0
  name : t.name = area.givenName?.getD t.id

theorem NewDraft.name_ofFeature (area : PolygonFeature) :
    ((ofFeature area).name.filter fun name => !Text.isBlank name) = area.givenName? := by
  rw [ofFeature, PolygonFeature.givenName?]
  rcases area.properties.find? "name" with _ | v
  · rfl
  · cases v with
    | text s => cases h : Text.isBlank s <;> simp [Text.nonBlank?, h, Option.filter_some]
    | number n => simp [Option.filter_some, n.isBlank_write]
    | _ => rfl

namespace DraftStore

variable {s : DraftStore} {payload : ByteArray} {features : List Feature}

theorem stores_storedAs (area : PolygonFeature) (index : Nat) :
    (storedAs true (.ofFeature area) index).Stores area where
  geometry := rfl
  processPoints := rfl
  name := by
    rw [name_storedAs, NewDraft.name_ofFeature]
    rfl

/-- Each new draft is stored, in order. -/
theorem forall₂_added (batch : List NewDraft) (reproject : Bool) :
    List.Forall₂ (fun d t => ∃ index, t = storedAs reproject d index) batch
      (s.addTasks batch reproject).1 := by
  rw [List.forall₂_iff_get]
  refine ⟨(s.length_added batch reproject).symm, fun k hk hk' => ?_⟩
  obtain ⟨d, index, hd, -, ht⟩ := getElem?_added (List.getElem?_eq_getElem hk')
  rw [List.getElem?_eq_getElem hk, Option.some.injEq] at hd
  rw [List.get_eq_getElem, List.get_eq_getElem, hd]
  exact ⟨index, ht⟩

theorem addPayload_of_detect?_eq_none (h : detect? PayloadFormat.all payload = none) :
    s.addPayload payload = (.error .unrecognizedPayload, s) := by
  simp only [addPayload, h]

/-- Wherever areas are found, each is stored. -/
theorem stores_addPayload {format : PayloadFormat}
    (h : detect? PayloadFormat.all payload = some (format, features))
    (hareas : Feature.normalizeAll features ≠ []) :
    ∃ added after, s.addPayload payload = (.ok added, after) ∧ after.tasks = s.tasks ++ added ∧
      after.selected = s.selected ∧
      List.Forall₂ TaskDraft.Stores (Feature.normalizeAll features) added := by
  rw [addPayload_of_areas h hareas]
  refine ⟨_, _, rfl, tasks_addTasks .., selected_addTasks .., ?_⟩
  refine (List.forall₂_map_left_iff.mp (s.forall₂_added _ true)).imp ?_
  rintro area t ⟨index, rfl⟩
  exact stores_storedAs area index

end DraftStore

/-- **Loading a payload.** It is not recognised just if no format reads anything of it, and has
nothing that can be used just if the features of the first format that does have no area. Else one
draft for each area is stored behind the others, in order: with the shape of the area in metres, no
process points, and the name that the area brings along, or else its identifier. -/
theorem loading_stores_each_area {c : Command} {payload : ByteArray}
    (hc : c.loaded? = some payload) (s : DraftStore) :
    ((c.run s).1 = .error .unrecognizedPayload ↔
      ¬ ∃ features, PayloadFormat.FirstReads payload features) ∧
    ((c.run s).1 = .error .noUsableGeometry ↔
      ∃ features, PayloadFormat.FirstReads payload features ∧
        Feature.normalizeAll features = []) ∧
    ∀ features, PayloadFormat.FirstReads payload features → Feature.normalizeAll features ≠ [] →
      ∃ added after, c.run s = (.ok (.drafts added), after) ∧ after.tasks = s.tasks ++ added ∧
        after.selected = s.selected ∧
        List.Forall₂ TaskDraft.Stores (Feature.normalizeAll features) added := by
  rw [Command.run_of_loaded? hc]
  cases hdetect : detect? PayloadFormat.all payload with
  | none =>
    have hnone : ∀ features, ¬ PayloadFormat.FirstReads payload features := by
      simp [PayloadFormat.firstReads_iff, hdetect]
    rw [DraftStore.addPayload_of_detect?_eq_none hdetect]
    refine ⟨iff_of_true rfl ?_, iff_of_false nofun ?_, fun features h => absurd h (hnone features)⟩
    · rintro ⟨features, h⟩
      exact hnone features h
    · rintro ⟨features, h, -⟩
      exact hnone features h
  | some found =>
    obtain ⟨format, features⟩ := found
    have hreads : ∀ {read}, PayloadFormat.FirstReads payload read ↔ read = features := by
      simp [PayloadFormat.firstReads_iff, hdetect, eq_comm]
    simp only [hreads, exists_eq_left, forall_eq]
    rcases s.addPayload_of_detect? hdetect with ⟨hareas, hresult⟩ | ⟨_, hareas, -⟩
    · rw [hresult]
      exact ⟨iff_of_false nofun (not_not_intro ⟨features, rfl⟩), iff_of_true rfl hareas,
        fun hne => absurd hareas hne⟩
    · obtain ⟨added, after, hresult, hstored⟩ := s.stores_addPayload hdetect hareas
      rw [hresult]
      exact ⟨iff_of_false nofun (not_not_intro ⟨features, rfl⟩), iff_of_false nofun hareas,
        fun _ => ⟨added, after, rfl, hstored⟩⟩

/-- A fetched file with two rings, one of them named. -/
theorem loading_of_two_rings :
    let ring := "<LinearRing><coordinates>0,0 1,0 1,1</coordinates></LinearRing>"
    let file := "<kml><Placemark><name>Pier</name>" ++ ring ++ "</Placemark><Placemark>" ++ ring ++
      "</Placemark></kml>"
    ∃ named unnamed after,
      (Command.addFetched (.ok file.toUTF8)).run .empty = (.ok (.drafts [named, unnamed]), after) ∧
      after.tasks = [named, unnamed] ∧ named.name = "Pier" ∧ unnamed.name = unnamed.id := by
  intro ring file
  let c : Command := .addFetched (.ok file.toUTF8)
  have hloaded : c.loaded? = some file.toUTF8 := rfl
  have hnames : (detect? PayloadFormat.all file.toUTF8).map (fun r =>
      (Feature.normalizeAll r.2).map PolygonFeature.givenName?) = some [some "Pier", none] := by
    decide +kernel
  obtain ⟨⟨format, features⟩, hdetect, hareas⟩ := Option.map_eq_some_iff.mp hnames
  obtain ⟨area, areas, hall, harea, hrest⟩ := List.map_eq_cons_iff.mp hareas
  obtain ⟨other, rfl, hother⟩ := List.map_eq_singleton_iff.mp hrest
  dsimp only at hall
  have hne : Feature.normalizeAll features ≠ [] := by
    rw [hall]
    exact List.cons_ne_nil _ _
  obtain ⟨added, after, hrun, htasks, -, hstored⟩ :=
    (loading_stores_each_area hloaded .empty).2.2 features
      (PayloadFormat.firstReads_iff.mpr ⟨format, hdetect⟩) hne
  rw [hall] at hstored
  obtain _ | ⟨hnamed, _ | ⟨hunnamed, _ | _⟩⟩ := hstored
  refine ⟨_, _, after, hrun, htasks, ?_, ?_⟩
  · rw [hnamed.name, harea]
    rfl
  · rw [hunnamed.name, hother]
    rfl

end GeoDrafts
