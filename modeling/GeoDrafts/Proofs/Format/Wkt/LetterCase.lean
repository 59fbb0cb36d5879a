import GeoDrafts.Proofs.Format.Wkt.Characters
import GeoDrafts.Proofs.Text.LetterCase

/-!
Texts that are read alike. A text in lower case has the tokens of the text, each at the same offset,
so the case of letters shows only in stray text. And what stands in front of a text that starts
with the number of a reference system is not read, nor counted in offsets.
-/

namespace GeoDrafts.Wkt

open Text

/-! ## Numbers -/

theorem spanDecimals_lower (cs : List Char) :
    spanDecimals (lower cs) = (spanDecimals cs).map lower lower :=
  span_lower isDecimalDigit_toLower cs

theorem spanSign_lower (cs : List Char) : spanSign (lower cs) = (spanSign cs).map lower lower := by
  cases cs with
  | nil => rfl
  | cons c cs =>
    rcases eq_or_toLower_ne (d := '-') rfl c with rfl | ⟨hminus, hminus'⟩
    · rfl
    · rcases eq_or_toLower_ne (d := '+') rfl c with rfl | ⟨hplus, hplus'⟩
      · rfl
      · simp [spanSign, hminus, hplus, hminus', hplus']

theorem splitMantissa?_lower (cs : List Char) :
    splitMantissa? (lower cs) = (splitMantissa? cs).map (Prod.map lower lower) := by
  unfold splitMantissa?
  rw [spanDecimals_lower]
  generalize spanDecimals cs = span
  obtain ⟨whole, after⟩ := span
  cases after with
  | nil => cases whole <;> rfl
  | cons c after =>
    rcases eq_or_toLower_ne (d := '.') rfl c with rfl | ⟨hpoint, hpoint'⟩
    · cases whole with
      | nil =>
        simp only [Prod.map_apply, lower_nil, lower_cons_mark (d := '.') rfl, spanDecimals_lower,
          Prod.map_fst, lower_eq_nil_iff]
        split <;> rfl
      | cons d whole => simp [spanDecimals_lower]
    · cases whole with
      | nil => simp [hpoint, hpoint']
      | cons d whole => simp [hpoint, hpoint']

theorem spanExponent_lower (cs : List Char) :
    spanExponent (lower cs) = (spanExponent cs).map lower lower := by
  cases cs with
  | nil => rfl
  | cons c cs =>
    simp only [lower_cons, spanExponent, Decimal.isMark_toLower, spanSign_lower,
      spanDecimals_lower, Prod.map_fst, Prod.map_snd, lower_eq_nil_iff]
    split
    · split
      · rfl
      · simp
    · rfl

theorem splitNumber?_lower (cs : List Char) :
    splitNumber? (lower cs) = (splitNumber? cs).map (Prod.map lower lower) := by
  simp only [splitNumber?, spanSign_lower, Prod.map_snd, splitMantissa?_lower]
  cases splitMantissa? (spanSign cs).2 with
  | none => rfl
  | some split => simp [spanExponent_lower]

theorem byteLength_lower (cs : List Char) : byteLength (lower cs) = byteLength cs := by
  simp only [byteLength, lower, List.foldl_map, utf8Size_toLower]

/-! ## Tokens -/

/-- The error with the stray text in lower case, if that is what is wrong. -/
def lowerStray : DecodeError → DecodeError
  | .wkt offset (.strayText s) => .wkt offset (.strayText s.toLower)
  | e => e

theorem lowerStray_strayText (offset : Nat) (cs : List Char) :
    lowerStray (strayText offset cs) = strayText offset (lower cs) := by
  rw [strayText, lowerStray, toLower_ofList, strayText]

/-- A token in front of what is read is the same in lower case. -/
private theorem bind_mapError (l : Lexeme) (reading : Except DecodeError (List Lexeme)) :
    (do
      let more ← reading.mapError lowerStray
      .ok (l :: more)) =
    (do
      let more ← reading
      .ok (l :: more) : Except DecodeError (List Lexeme)).mapError lowerStray := by
  cases reading <;> rfl

theorem tokensFrom_lower (fuel offset : Nat) (cs : List Char) :
    tokensFrom fuel offset (lower cs) = (tokensFrom fuel offset cs).mapError lowerStray := by
  induction fuel generalizing offset cs with
  | zero => cases cs <;> rfl
  | succ fuel ih =>
    cases cs with
    | nil => rfl
    | cons c cs =>
      have hsplit := splitNumber?_lower (c :: cs)
      rw [lower_cons] at hsplit
      rw [lower_cons, tokensFrom, tokensFrom]
      simp only [isBlankChar_toLower, utf8Size_toLower, toLower_eq_iff (d := '(') rfl,
        toLower_eq_iff (d := ')') rfl, toLower_eq_iff (d := ',') rfl,
        Char.isAlpha_toLower_eq_isAlpha, takeWhile_lower Char.isAlpha_toLower_eq_isAlpha,
        dropWhile_lower Char.isAlpha_toLower_eq_isAlpha, ih, hsplit, bind_mapError,
        apply_ite (Except.mapError lowerStray)]
      rw [← lower_cons, toUpper_ofList_lower, length_lower]
      -- Only the texts of numbers still differ, by the mark of an exponent.
      refine congrArg (ite _ _) (congrArg (ite _ _) (congrArg (ite _ _) (congrArg (ite _ _)
        (congrArg (ite _ _) ?_))))
      cases splitNumber? (c :: cs) with
      | none => exact congrArg Except.error (lowerStray_strayText offset [c]).symm
      | some split =>
        obtain ⟨text, rest⟩ := split
        simp only [Option.map_some, Prod.map_apply, Decimal.readFloat?_lower, byteLength_lower, ih]
        cases Decimal.readFloat? text with
        | none => exact congrArg Except.error (lowerStray_strayText offset text).symm
        | some x => exact bind_mapError _ _

theorem tokens_lower (cs : List Char) : tokens (lower cs) = (tokens cs).mapError lowerStray := by
  rw [tokens, length_lower, tokensFrom_lower, tokens]

/-- The reader of tokens stops only at stray text. -/
theorem exists_of_tokensFrom_eq_error {fuel offset : Nat} {cs : List Char} {e : DecodeError}
    (h : tokensFrom fuel offset cs = .error e) : ∃ start s, e = .wkt start (.strayText s) := by
  induction fuel generalizing offset cs with
  | zero => cases cs <;> cases h
  | succ fuel ih =>
    cases cs with
    | nil => cases h
    | cons c cs =>
      have hstep : ∀ {finish rest l},
          (do
            let more ← tokensFrom fuel finish rest
            .ok (l :: more)) = Except.error e → ∃ start s, e = .wkt start (.strayText s) := by
        intro finish rest l h
        rcases error_of_bind h with hmore | ⟨more, -, h⟩
        · exact ih hmore
        · cases h
      rw [tokensFrom] at h
      split at h
      · exact ih h
      · split at h
        · exact hstep h
        · split at h
          · exact hstep h
          · split at h
            · exact hstep h
            · split at h
              · exact hstep h
              · split at h
                · cases h
                  exact ⟨_, _, rfl⟩
                · split at h
                  · cases h
                    exact ⟨_, _, rfl⟩
                  · exact hstep h

/-! ## The number of a reference system -/

theorem dropLetters?_lower {letters : List (List Char)}
    (h : ∀ choice ∈ letters, ∀ c : Char, c.toLower ∈ choice ↔ c ∈ choice) (cs : List Char) :
    dropLetters? letters (lower cs) = (dropLetters? letters cs).map lower := by
  induction letters generalizing cs with
  | nil => rfl
  | cons choice letters ih =>
    cases cs with
    | nil => rfl
    | cons c cs =>
      obtain ⟨hchoice, hletters⟩ := List.forall_mem_cons.mp h
      simp only [lower_cons, dropLetters?, hchoice, ih hletters]
      split <;> rfl

theorem afterSystem?_lower (cs : List Char) :
    afterSystem? (lower cs) = (afterSystem? cs).map lower := by
  have hletters : ∀ choice ∈ systemLetters, ∀ c : Char, c.toLower ∈ choice ↔ c ∈ choice := by
    simp only [systemLetters, List.forall_mem_cons]
    refine ⟨?_, ?_, ?_, ?_, List.forall_mem_nil _⟩ <;> exact fun c => toLower_mem_iff (by decide)
  unfold afterSystem?
  rw [dropWhile_lower isBlankChar_toLower, dropLetters?_lower hletters]
  rcases dropLetters? systemLetters (cs.dropWhile isBlankChar) with _ | _ | ⟨c, after⟩
  · rfl
  · rfl
  · rcases eq_or_toLower_ne (d := '=') rfl c with rfl | ⟨hequals, hequals'⟩
    · simp only [Option.map_some, lower_cons_mark (d := '=') rfl, spanDecimals_lower, Prod.map_fst,
        Prod.map_snd, dropWhile_lower isBlankChar_toLower]
      rcases (spanDecimals after).2.dropWhile isBlankChar with _ | ⟨d, rest⟩
      · rfl
      · rcases eq_or_toLower_ne (d := ';') rfl d with rfl | ⟨hend, hend'⟩
        · simp only [lower_cons_mark (d := ';') rfl, lower_eq_nil_iff]
          split <;> rfl
        · simp [hend, hend']
    · simp [hequals, hequals']

theorem body_lower (cs : List Char) : body (lower cs) = lower (body cs) := by
  rw [body, afterSystem?_lower, body]
  cases afterSystem? cs <;> rfl

/-- The letters SRID in any case, an equals sign, digits and a semicolon; blanks may stand in
front of the letters and of the semicolon. -/
inductive SystemText : List Char → Prop where
  | parts {blanks letters digits gap : List Char}
      (hblanks : ∀ c ∈ blanks, isBlankChar c = true)
      (hletters : List.Forall₂ (fun c choice => c ∈ choice) letters systemLetters)
      (hne : digits ≠ []) (hdigits : ∀ d ∈ digits, isDecimalDigit d = true)
      (hgap : ∀ c ∈ gap, isBlankChar c = true) :
    SystemText (blanks ++ (letters ++ '=' :: (digits ++ (gap ++ [';']))))

theorem dropLetters?_append {letters : List Char} {choices : List (List Char)}
    (h : List.Forall₂ (fun c choice => c ∈ choice) letters choices) (rest : List Char) :
    dropLetters? choices (letters ++ rest) = some rest := by
  induction h with
  | nil => cases rest <;> rfl
  | cons hc _ ih => rw [List.cons_append, dropLetters?, if_pos hc, ih]

theorem isBlankChar_of_systemLetters {letters : List Char}
    (h : List.Forall₂ (fun c choice => c ∈ choice) letters systemLetters) :
    ∀ c ∈ letters, isBlankChar c = false := by
  have hall : systemLetters.all (List.all · (!isBlankChar ·)) = true := by decide +kernel
  refine forall_of_choices h fun choice hchoice c hc => ?_
  simpa using List.all_eq_true.mp (List.all_eq_true.mp hall choice hchoice) c hc

theorem afterSystem?_append {system : List Char} (h : SystemText system) (rest : List Char) :
    afterSystem? (system ++ rest) = some rest := by
  cases h with
  | @parts blanks letters digits gap hblanks hletters hne hdigits hgap =>
    have hfirst : ∀ tail, ∀ c ∈ (letters ++ tail).head?, isBlankChar c = false := by
      intro tail c hc
      cases hletters with
      | cons hletter hletters =>
        obtain rfl := Option.some.inj hc
        exact isBlankChar_of_systemLetters (.cons hletter hletters) _ List.mem_cons_self
    have hend : ∀ c ∈ (gap ++ ';' :: rest).head?, isDecimalDigit c = false := by
      intro c hc
      rw [Bool.eq_false_iff]
      intro hdigit
      cases gap with
      | nil =>
        obtain rfl := Option.some.inj hc
        exact absurd hdigit (by decide +kernel)
      | cons d gap =>
        obtain rfl := Option.some.inj hc
        have hblank := hgap d List.mem_cons_self
        rw [isBlankChar_of_isDecimalDigit hdigit] at hblank
        cases hblank
    have hsemicolon : ∀ c ∈ (';' :: rest).head?, isBlankChar c = false := by
      intro c hc
      obtain rfl := Option.some.inj hc
      rfl
    simp only [List.append_assoc, List.cons_append, List.nil_append]
    rw [afterSystem?, dropWhile_run hblanks (hfirst _), dropLetters?_append hletters]
    simp only [spanDecimals_append hdigits hend, dropWhile_run hgap hsemicolon, if_neg hne]

/-- What the reader takes for the number of a reference system. -/
theorem afterSystem?_eq_some_iff {cs rest : List Char} :
    afterSystem? cs = some rest ↔ ∃ system, SystemText system ∧ cs = system ++ rest := by
  constructor
  · intro h
    obtain ⟨letters, digits, gap, hletters, hne, hdigits, hgap, hcs⟩ := exists_of_afterSystem? h
    have hblanks : ∀ c ∈ cs.takeWhile isBlankChar, isBlankChar c = true :=
      List.all_eq_true.mp List.all_takeWhile
    refine ⟨_, .parts hblanks hletters hne hdigits hgap, ?_⟩
    calc
      cs = cs.takeWhile isBlankChar ++ cs.dropWhile isBlankChar :=
        List.takeWhile_append_dropWhile.symm
      _ = _ := by simp [hcs]
  · rintro ⟨system, hsystem, rfl⟩
    exact afterSystem?_append hsystem rest

theorem body_append {system : List Char} (h : SystemText system) (rest : List Char) :
    body (system ++ rest) = rest := by
  rw [body, afterSystem?_append h, Option.getD_some]

/-- A text that does not start with the number of a reference system is read from its start. -/
theorem body_eq_self {cs : List Char} (h : ∀ system, SystemText system → ¬ system <+: cs) :
    body cs = cs := by
  cases hafter : afterSystem? cs with
  | none => rw [body, hafter, Option.getD_none]
  | some rest =>
    obtain ⟨system, hsystem, rfl⟩ := afterSystem?_eq_some_iff.mp hafter
    exact absurd (List.prefix_append system rest) (h system hsystem)

/-! ## Texts -/

/-- The offsets of errors are those in the text proper. -/
theorem decode_eq_of_body_eq {t u : String} (h : body t.toList = body u.toList) :
    decode t = decode u := by
  simp only [decode, h]

theorem exists_of_decode_eq_error {text : String} {e : DecodeError}
    (h : decode text = .error e) : ∃ offset fault, e = .wkt offset fault := by
  rcases error_of_bind h with htokens | ⟨ts, -, h⟩
  · obtain ⟨start, s, rfl⟩ := exists_of_tokensFrom_eq_error htokens
    exact ⟨_, _, rfl⟩
  · split at h <;> cases h
    exact ⟨_, _, rfl⟩

/-- Texts in other letter case are read alike, or stop at the same stray text. -/
theorem decode_of_toLower_eq {t u : String} (h : t.toLower = u.toLower) :
    decode t = decode u ∨ ∃ offset s s', decode t = .error (.wkt offset (.strayText s)) ∧
      decode u = .error (.wkt offset (.strayText s')) ∧ s.toLower = s'.toLower := by
  have hbody : lower (body t.toList) = lower (body u.toList) := by
    rw [← body_lower, ← body_lower, ← toList_toLower, ← toList_toLower, h]
  have hlength : byteLength (body t.toList) = byteLength (body u.toList) := by
    rw [← byteLength_lower, hbody, byteLength_lower]
  have htokens : (tokens (body t.toList)).mapError lowerStray =
      (tokens (body u.toList)).mapError lowerStray := by
    rw [← tokens_lower, hbody, tokens_lower]
  cases ht : tokens (body t.toList) with
  | ok ts =>
    cases hu : tokens (body u.toList) with
    | error e =>
      rw [ht, hu] at htokens
      cases htokens
    | ok us =>
      rw [ht, hu] at htokens
      cases htokens
      left
      simp only [decode, ht, hu, hlength]
  | error e =>
    cases hu : tokens (body u.toList) with
    | ok us =>
      rw [ht, hu] at htokens
      cases htokens
    | error e' =>
      obtain ⟨offset, s, rfl⟩ := exists_of_tokensFrom_eq_error ht
      obtain ⟨offset', s', rfl⟩ := exists_of_tokensFrom_eq_error hu
      rw [ht, hu] at htokens
      simp only [Except.mapError, lowerStray, Except.error.injEq, DecodeError.wkt.injEq,
        WktFault.strayText.injEq] at htokens
      obtain ⟨rfl, hs⟩ := htokens
      refine .inr ⟨offset, s, s', ?_, ?_, hs⟩
      · rw [decode, ht]
        rfl
      · rw [decode, hu]
        rfl

/-- **Letter case and the number of a reference system.** Every error has an offset. Texts that
differ in the case of ASCII letters only are read alike: they have the same features or the same
error, or both stop at the same stray text, shown in the case in which it is written. A number of
a reference system in front of a text that has none changes nothing, the offset of an error
included. -/
theorem reading_ignores_case_and_system :
    (∀ (t : String) (e : DecodeError), decode t = .error e → ∃ offset fault, e = .wkt offset fault) ∧
    (∀ t u : String, t.toLower = u.toLower →
      decode t = decode u ∨ ∃ offset s s', decode t = .error (.wkt offset (.strayText s)) ∧
        decode u = .error (.wkt offset (.strayText s')) ∧ s.toLower = s'.toLower) ∧
    ∀ t digits : String, digits ≠ "" → (∀ d ∈ digits.toList, Text.isDecimalDigit d = true) →
      (∀ system, SystemText system → ¬ system <+: t.toList) →
      decode ("SRID=" ++ digits ++ ";" ++ t) = decode t := by
  refine ⟨fun t e => exists_of_decode_eq_error, fun t u => decode_of_toLower_eq, ?_⟩
  intro t digits hne hdigits hnone
  have hsystem : SystemText ("SRID=" ++ digits ++ ";").toList := by
    have hletters : List.Forall₂ (fun c choice => c ∈ choice) "SRID".toList systemLetters := by
      decide
    have hparts := SystemText.parts (List.forall_mem_nil _) hletters
      (fun h => hne (String.toList_eq_nil_iff.mp h)) hdigits (List.forall_mem_nil _)
    simpa using hparts
  apply decode_eq_of_body_eq
  rw [String.toList_append, body_append hsystem, body_eq_self hnone]

/-- A line with an exponent and with a third dimension, which is left out. -/
theorem reading_ignores_case_and_system_of_line :
    let line := "linestring z (0 0 5, 1.5e1 -2 5)"
    let other := "LineString Z (0 0 5, 1.5E1 -2 5)"
    (decode line).map (·.flatMap Feature.coords) = .ok [⟨0.0, 0.0⟩, ⟨15.0, -2.0⟩] ∧
      decode other = decode line ∧ decode ("SRID=" ++ "4326" ++ ";" ++ other) = decode line := by
  intro line other
  have hline : (decode line).map (·.flatMap Feature.coords) =
      .ok [⟨0.0, 0.0⟩, ⟨15.0, -2.0⟩] := by
    decide +kernel
  have hlower : other.toLower = line.toLower := by
    apply String.ext
    rw [toList_toLower, toList_toLower]
    decide
  have hnone : ∀ system, SystemText system → ¬ system <+: other.toList := by
    rintro system hsystem ⟨rest, hrest⟩
    have hafter : afterSystem? other.toList = none := by decide +kernel
    rw [← hrest, afterSystem?_append hsystem] at hafter
    cases hafter
  obtain ⟨-, hcase, hsystem⟩ := reading_ignores_case_and_system
  have hother : decode other = decode line := by
    rcases hcase other line hlower with heq | ⟨_, _, _, -, herror, -⟩
    · exact heq
    · rw [herror] at hline
      cases hline
  refine ⟨hline, hother, ?_⟩
  have hdigits : ∀ d ∈ "4326".toList, isDecimalDigit d = true :=
    List.all_eq_true.mp (by decide +kernel)
  rw [hsystem other "4326" (by decide) hdigits hnone, hother]

/-- Stray text, here a number with a digit of another script, is shown as it is written. -/
example :
    (decode "POINT (1E٣ 0)").map List.length = .error (.wkt 7 (.strayText "1E٣")) ∧
      (decode "point (1e٣ 0)").map List.length = .error (.wkt 7 (.strayText "1e٣")) := by
  decide +kernel

end GeoDrafts.Wkt
