import GeoDrafts.Proofs.Format.Detection
import GeoDrafts.Proofs.Json.Texts
import GeoDrafts.Proofs.Markup.Scanning

/-!
Markup inside JSON. The markup formats skip whatever stands before the first `<`, and text after
the root too. A JSON text is therefore read as the markup that one of its own texts holds, if it
holds any.
-/

namespace GeoDrafts

namespace Markup

def fromFirstTag (text : String) : String := String.ofList (text.toList.dropWhile (· != '<'))

/-- Text outside the root does not count. -/
theorem build_textEvents_outside (run : List Char) (root : Option Element) (more : List Event) :
    build [] root (textEvents run ++ more) = build [] root more := by
  unfold textEvents
  split
  · rfl
  · exact build_cons [] root _ more

theorem skipMark_fromFirstTag (cs : List Char) :
    skipMark (cs.dropWhile (· != '<')) = cs.dropWhile (· != '<') := by
  obtain hnone | ⟨rest, hrest⟩ := dropWhile_bne '<' cs
  · rw [hnone]
    rfl
  · rw [hrest]
    rfl

theorem dropWhile_skipMark (cs : List Char) :
    (skipMark cs).dropWhile (· != '<') = cs.dropWhile (· != '<') := by
  unfold skipMark
  split <;> rfl

theorem build_events_fromFirstTag (text : String) :
    build [] none (events text) = build [] none (events (fromFirstTag text)) := by
  have hcut : eventsOf [] (skipMark text.toList) =
      textEvents ((skipMark text.toList).takeWhile (· != '<')) ++
        eventsOf [] (text.toList.dropWhile (· != '<')) := by
    rw [← eventsOf_run (notMem_takeWhile_bne '<' _) [] (dropWhile_bne '<' _),
      ← dropWhile_skipMark, List.takeWhile_append_dropWhile]
  rw [fromFirstTag, events_ofList, skipMark_fromFirstTag, events, ← eventsOf, hcut,
    build_textEvents_outside]

/-- Nothing before the first `<` matters to a markup text. -/
theorem read_fromFirstTag (text : String) :
    Element.read text = Element.read (fromFirstTag text) := build_events_fromFirstTag text

theorem readNamed_fromFirstTag (name text : String) :
    Element.readNamed name text = Element.readNamed name (fromFirstTag text) := by
  rw [Element.readNamed, Element.readNamed, read_fromFirstTag]

theorem read_of_no_tag {text : String} (h : '<' ∉ text.toList) :
    Element.read text = .error (.document .noRoot) := by
  have hnone : text.toList.dropWhile (· != '<') = [] :=
    List.dropWhile_eq_nil_iff.mpr fun c hc => bne_iff_ne.mpr (by rintro rfl; exact h hc)
  rw [read_fromFirstTag, fromFirstTag, hnone]
  rfl

end Markup

namespace PayloadFormat

open Markup

def markup : List PayloadFormat := [.osmXml, .gpx, .kml]

variable {format : PayloadFormat}

theorem decode_fromFirstTag (h : format ∈ markup) (text : String) :
    format.decode text = format.decode (fromFirstTag text) := by
  simp only [markup, List.mem_cons, List.not_mem_nil, or_false] at h
  obtain rfl | rfl | rfl := h
  · rw [decode, Osm.decode, Osm.decode, readNamed_fromFirstTag]
  · rw [decode, Gpx.decode, Gpx.decode, readNamed_fromFirstTag]
  · rw [decode, Kml.decode, Kml.decode, read_fromFirstTag]

theorem features?_fromFirstTag (h : format ∈ markup) (text : String) :
    format.features? text = format.features? (fromFirstTag text) := by
  rw [features?, features?, decode_fromFirstTag h]

theorem decode_of_no_tag (h : format ∈ markup) {text : String} (htag : '<' ∉ text.toList) :
    format.decode text = .error (.document .noRoot) := by
  have hread := read_of_no_tag htag
  simp only [markup, List.mem_cons, List.not_mem_nil, or_false] at h
  obtain rfl | rfl | rfl := h
  · rw [decode, Osm.decode, Element.readNamed, hread]
    rfl
  · rw [decode, Gpx.decode, Element.readNamed, hread]
    rfl
  · rw [decode, Kml.decode, hread]
    rfl

end PayloadFormat

/-- **Markup inside JSON.** No markup format has features of a JSON text, and so none is ever its
format, just if none has features of what follows from its first `<` on. Where no text of the
document holds a `<`, each of them fails for want of a root. -/
theorem markup_of_json_iff {text : String} {v : Json} (h : Json.read? text = some v) :
    (((∀ format ∈ PayloadFormat.markup, format.features? text = none) ∧
        ∀ payload, payloadText? payload = some text → ∀ format features,
          detect? PayloadFormat.all payload = some (format, features) →
            format ∉ PayloadFormat.markup) ↔
      ∀ format ∈ PayloadFormat.markup, format.features? (Markup.fromFirstTag text) = none) ∧
    ∃ d, Json.Document.read? text = some d ∧
      ((∀ s, some s ∈ d.texts → '<' ∉ s.toList) → ∀ format ∈ PayloadFormat.markup,
        format.decode text = .error (.document .noRoot)) := by
  constructor
  · constructor
    · rintro ⟨hnone, -⟩ format hformat
      rw [← PayloadFormat.features?_fromFirstTag hformat]
      exact hnone format hformat
    · intro hnone
      have htext : ∀ format ∈ PayloadFormat.markup, format.features? text = none := by
        intro format hformat
        rw [PayloadFormat.features?_fromFirstTag hformat]
        exact hnone format hformat
      refine ⟨htext, fun payload hpayload format features hdetect hformat => ?_⟩
      obtain ⟨text', htext', hfeatures⟩ := features?_of_detect? hdetect
      rw [hpayload, Option.some.injEq] at htext'
      subst htext'
      cases hfeatures.symm.trans (htext format hformat)
  · obtain ⟨d, hread, -⟩ := Option.bind_eq_some_iff.mp h
    refine ⟨d, hread, fun hplain format hformat => ?_⟩
    refine PayloadFormat.decode_of_no_tag hformat fun htag => ?_
    obtain ⟨d', hread', s, hs, hmem⟩ := Json.exists_text_with_tag h htag
    rw [hread, Option.some.injEq] at hread'
    subst hread'
    exact hplain s hs hmem

/-- A text that holds markup without features. -/
theorem markup_of_json_remark :
    let text := "\x7b\"note\": \"see <gpx> in <kml/>\"\x7d"
    (∃ v, Json.read? text = some v) ∧
      ∀ payload, payloadText? payload = some text → ∀ format features,
        detect? PayloadFormat.all payload = some (format, features) →
          format ∉ PayloadFormat.markup := by
  intro text
  have hjson : (Json.read? text).isSome = true := by decide +kernel
  obtain ⟨v, hv⟩ := Option.isSome_iff_exists.mp hjson
  have hnone : ∀ format ∈ PayloadFormat.markup,
      (format.features? (Markup.fromFirstTag text)).isNone = true := by
    decide +kernel
  exact ⟨⟨v, hv⟩, ((markup_of_json_iff hv).1.mpr fun format hformat =>
    Option.isNone_iff_eq_none.mp (hnone format hformat)).2⟩

/-- A text that holds a track file decides the format of the point that it is about. -/
theorem json_detected_as_markup :
    ∃ text v features, Json.read? text = some v ∧
      detect? PayloadFormat.all text.toUTF8 = some (.gpx, features) ∧
      (PayloadFormat.esriJson.features? text).isSome = true := by
  let text := "\x7b\"x\":1,\"y\":2,\"note\":\"<gpx><wpt lat='3' lon='4'/></gpx>\"\x7d"
  have hjson : (Json.read? text).isSome = true := by decide +kernel
  obtain ⟨v, hv⟩ := Option.isSome_iff_exists.mp hjson
  have hdetect : (detect? PayloadFormat.all text.toUTF8).map (·.1) = some .gpx := by
    decide +kernel
  obtain ⟨⟨format, features⟩, hfeatures, rfl⟩ := Option.map_eq_some_iff.mp hdetect
  exact ⟨text, v, features, hv, hfeatures, by decide +kernel⟩

end GeoDrafts
