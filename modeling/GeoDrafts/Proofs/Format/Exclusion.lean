import GeoDrafts.Proofs.Format.EmbeddedMarkup
import GeoDrafts.Proofs.Format.Wkt.Characters

/-!
Well-known text is no text of another format. It holds no `<`, so it has no markup, and it does not
start as a JSON document does. Where in the order of the formats it is tried does not matter
therefore.
-/

namespace GeoDrafts

namespace Json

/-- The characters with which a document starts behind its blanks. -/
def startsDocument (c : Char) : Bool :=
  c.isDigit || ['\x7b', '[', '"', 'n', 't', 'f', '-'].contains c

theorem readLiteral?_eq_none {c : Char} (h : startsDocument c = false) (cs : List Char) :
    readLiteral? (c :: cs) = none := by
  rw [startsDocument, Bool.or_eq_false_iff] at h
  obtain ⟨hdigit, hother⟩ := h
  have hminus : c ≠ '-' := by
    rintro rfl
    exact absurd hother (by decide)
  have hnone : ∀ d ∈ ([] : List Char), d.isDigit = true := fun d hd => absurd hd List.not_mem_nil
  have hspan : Decimal.spanDigits (c :: cs) = ([], c :: cs) :=
    Text.span_run hnone (by simpa using hdigit)
  rw [readLiteral?_of_ne hminus, readUnsigned?, hspan]
  rfl

/-- A text of which a document is read starts as a document does. -/
theorem head_of_readDocument? {fuel : Nat} {cs rest : List Char} {d : Document}
    (h : readDocument? fuel cs = some (d, rest)) :
    ∃ c more, skipSpace cs = c :: more ∧ startsDocument c = true := by
  cases fuel with
  | zero => cases h
  | succ fuel =>
    unfold readDocument? at h
    split at h
    case h_7 =>
      obtain ⟨⟨l, after⟩, hread, -⟩ := Option.map_eq_some_iff.mp h
      cases hskip : skipSpace cs with
      | nil =>
        rw [hskip] at hread
        cases hread
      | cons c more =>
        refine ⟨c, more, rfl, Bool.of_not_eq_false fun hc => ?_⟩
        rw [hskip, readLiteral?_eq_none hc] at hread
        cases hread
    -- The other cases each give the character with which the document starts.
    all_goals
      rename_i heq
      exact ⟨_, _, heq, by decide⟩

theorem isBlankChar_of_isSpace {c : Char} (h : isSpace c = true) : Text.isBlankChar c = true := by
  simp only [isSpace, Bool.or_eq_true, beq_iff_eq] at h
  rcases h with ((rfl | rfl) | rfl) | rfl <;> rfl

theorem not_isBlankChar_of_startsDocument {c : Char} (h : startsDocument c = true) :
    Text.isBlankChar c = false := by
  rw [startsDocument, Bool.or_eq_true, List.contains_iff_mem] at h
  rcases h with hdigit | hother
  · exact Text.isBlankChar_of_isDecimalDigit (Text.isDecimalDigit_of_isDigit hdigit)
  · simp only [List.mem_cons, List.not_mem_nil, or_false] at hother
    rcases hother with rfl | rfl | rfl | rfl | rfl | rfl | rfl <;> rfl

/-- What a document starts with is also the first character that is no blank of any script. -/
theorem dropWhile_isBlankChar_of_skipSpace {cs more : List Char} {c : Char}
    (h : skipSpace cs = c :: more) (hc : Text.isBlankChar c = false) :
    cs.dropWhile Text.isBlankChar = c :: more := by
  have hspaces : ∀ d ∈ cs.takeWhile isSpace, Text.isBlankChar d = true :=
    fun d hd => isBlankChar_of_isSpace (List.all_eq_true.mp List.all_takeWhile d hd)
  rw [← List.takeWhile_append_dropWhile (p := isSpace) (l := cs), ← skipSpace, h,
    Text.dropWhile_run hspaces (by simpa using hc)]

theorem startsDocument_of_read? {text : String} {v : Json} (h : read? text = some v) :
    ∃ c more, text.toList.dropWhile Text.isBlankChar = c :: more ∧ startsDocument c = true := by
  obtain ⟨d, hread, -⟩ := Option.bind_eq_some_iff.mp h
  unfold Document.read? at hread
  dsimp only at hread
  split at hread
  · rename_i hdocument
    obtain ⟨c, more, hskip, hc⟩ := head_of_readDocument? hdocument
    exact ⟨c, more, dropWhile_isBlankChar_of_skipSpace hskip
      (not_isBlankChar_of_startsDocument hc), hc⟩
  · cases hread

end Json

namespace Wkt

theorem not_startsDocument_of_startsText {c : Char} (h : startsText c = true) :
    Json.startsDocument c = false := by
  rw [startsText, Bool.or_eq_true, Bool.and_eq_true, List.contains_iff_mem] at h
  rcases h with hsystem | ⟨halpha, hkind⟩
  · simp only [List.mem_cons, List.not_mem_nil, or_false] at hsystem
    rcases hsystem with rfl | rfl | rfl <;> decide +kernel
  · have hdigit : c.isDigit = false := by
      by_contra hdigit
      have hdecimal := Text.isDecimalDigit_of_isDigit (Bool.eq_true_of_not_eq_false hdigit)
      rw [not_isAlpha_of_isDecimalDigit hdecimal] at halpha
      cases halpha
    rw [Json.startsDocument, hdigit, Bool.false_or, Bool.eq_false_iff]
    intro hother
    simp only [List.contains_iff_mem, List.mem_cons, List.not_mem_nil, or_false] at hother
    rcases hother with rfl | rfl | rfl | rfl | rfl | rfl | rfl <;> exact absurd hkind (by decide)

theorem read?_eq_none_of_decode {text : String} {features : List Feature}
    (h : decode text = .ok features) : Json.read? text = none := by
  obtain ⟨c, more, hcs, hc⟩ := startsText_of_decode h
  rw [Option.eq_none_iff_forall_ne_some]
  intro v hv
  obtain ⟨d, _, hcs', hd⟩ := Json.startsDocument_of_read? hv
  obtain ⟨rfl, -⟩ := List.cons.inj (hcs.symm.trans hcs')
  rw [not_startsDocument_of_startsText hc] at hd
  cases hd

theorem tag_notMem_of_decode {text : String} {features : List Feature}
    (h : decode text = .ok features) : '<' ∉ text.toList := by
  intro htag
  exact absurd (isTextChar_of_decode h '<' htag) (by decide +kernel)

end Wkt

/-! ## Formats -/

/-- A text that is well-known text is none of the other formats. -/
theorem error_of_decode_wkt {text : String} {features : List Feature}
    (h : Wkt.decode text = .ok features) {format : PayloadFormat} (hformat : format ≠ .wkt) :
    ∃ e, format.decode text = .error e := by
  have hjson := Wkt.read?_eq_none_of_decode h
  have hmarkup : ∀ other ∈ PayloadFormat.markup, ∃ e, other.decode text = .error e :=
    fun other hother => ⟨_, PayloadFormat.decode_of_no_tag hother (Wkt.tag_notMem_of_decode h)⟩
  cases format with
  | geoJson => exact ⟨.json, by rw [PayloadFormat.decode, GeoJson.decode, hjson]⟩
  | esriJson => exact ⟨.json, by rw [PayloadFormat.decode, Esri.decode, hjson]⟩
  | osmXml => exact hmarkup .osmXml (by decide)
  | gpx => exact hmarkup .gpx (by decide)
  | kml => exact hmarkup .kml (by decide)
  | wkt => exact absurd rfl hformat

/-- Well-known text is found wherever it is tried. -/
theorem detectText?_wkt {before after : List PayloadFormat} (h : .wkt ∉ before) (text : String) :
    detectText? (before ++ .wkt :: after) text =
      ((PayloadFormat.wkt.features? text).map fun features => (.wkt, features)).or
        (detectText? (before ++ after) text) := by
  cases hwkt : PayloadFormat.wkt.features? text with
  | none => simp [detectText?, List.findSome?_append, hwkt]
  | some features =>
    have hbefore : detectText? before text = none := by
      refine List.findSome?_eq_none_iff.mpr fun format hformat => ?_
      have hother : format ≠ .wkt := by
        rintro rfl
        exact h hformat
      obtain ⟨e, he⟩ := error_of_decode_wkt (PayloadFormat.features?_eq_some_iff.mp hwkt).1 hother
      rw [PayloadFormat.features?_eq_none_iff.mpr (by simp [he]), Option.map_none]
    rw [detectText?] at hbefore ⊢
    simp [List.findSome?_append, hbefore, hwkt]

/-- **Exclusion.** A text that is read as well-known text is an error in every other format. So a
payload has the same format and features at whatever place among the others well-known text is
tried. -/
theorem wkt_excludes_other_formats :
    (∀ (text : String) (features : List Feature), Wkt.decode text = .ok features →
      ∀ format : PayloadFormat, format ≠ .wkt → ∃ e, format.decode text = .error e) ∧
    ∀ before after : List PayloadFormat, before ++ after = PayloadFormat.all.erase .wkt →
      ∀ payload, detect? (before ++ .wkt :: after) payload = detect? PayloadFormat.all payload := by
  refine ⟨fun text features h format hformat => error_of_decode_wkt h hformat, ?_⟩
  intro before after hothers payload
  have hbefore : .wkt ∉ before := by
    intro hmem
    have hwkt : .wkt ∈ PayloadFormat.all.erase .wkt := hothers ▸ List.mem_append_left after hmem
    exact absurd hwkt (by decide)
  have hall : PayloadFormat.all = PayloadFormat.all.erase .wkt ++ .wkt :: [] := by decide
  have hsame : detectText? (before ++ .wkt :: after) = detectText? PayloadFormat.all := by
    funext text
    rw [hall, detectText?_wkt hbefore, detectText?_wkt (by decide), hothers, List.append_nil]
  rw [detect?, detect?, hsame]

/-- A point behind the number of its reference system, with blanks that are not of ASCII. -/
theorem wkt_excludes_other_formats_of_point :
    let text := "\u00a0srid=4326\u2003;point (1 2)"
    ∃ features, Wkt.decode text = .ok features ∧ features ≠ [] ∧
      (∃ e, PayloadFormat.geoJson.decode text = .error e) ∧
      detect? [.geoJson, .wkt, .osmXml, .gpx, .esriJson, .kml] text.toUTF8 =
        detect? PayloadFormat.all text.toUTF8 := by
  intro text
  have hread : (PayloadFormat.wkt.features? text).isSome = true := by decide +kernel
  obtain ⟨features, hfeatures⟩ := Option.isSome_iff_exists.mp hread
  obtain ⟨hdecode, hne⟩ := PayloadFormat.features?_eq_some_iff.mp hfeatures
  exact ⟨features, hdecode, hne,
    wkt_excludes_other_formats.1 text features hdecode .geoJson (by decide),
    wkt_excludes_other_formats.2 [.geoJson] [.osmXml, .gpx, .esriJson, .kml] (by decide) _⟩

end GeoDrafts
