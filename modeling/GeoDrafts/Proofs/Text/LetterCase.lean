import GeoDrafts.Proofs.Format.Wkt.Coords
import GeoDrafts.Proofs.Text.Run

/-!
Letter case. Only ASCII letters have lower case here. Blanks, digits and marks are no letters, so a
run of one of these classes is the same in a text and in its lower case; and a number is the same,
since its only letter, the mark of the exponent, may be written in either case.
-/

namespace GeoDrafts

/-! ## Characters -/

namespace Text

def lower (cs : List Char) : List Char := cs.map Char.toLower

@[simp]
theorem lower_nil : lower [] = [] := rfl

@[simp]
theorem lower_cons (c : Char) (cs : List Char) : lower (c :: cs) = c.toLower :: lower cs := rfl

@[simp]
theorem length_lower (cs : List Char) : (lower cs).length = cs.length := List.length_map _

@[simp]
theorem lower_eq_nil_iff {cs : List Char} : lower cs = [] ↔ cs = [] := List.map_eq_nil_iff

@[simp]
theorem lower_append (cs ds : List Char) : lower (cs ++ ds) = lower cs ++ lower ds :=
  List.map_append

theorem lower_cons_mark {d : Char} (hd : d.isAlpha = false) (cs : List Char) :
    lower (d :: cs) = d :: lower cs := by
  rw [lower_cons, Wkt.toLower_of_not_isAlpha hd]

theorem lower_eq_self {cs : List Char} (h : ∀ c ∈ cs, c.isAlpha = false) : lower cs = cs :=
  (List.map_congr_left fun c hc => Wkt.toLower_of_not_isAlpha (h c hc)).trans (List.map_id' cs)

theorem toList_toLower (s : String) : s.toLower.toList = lower s.toList := String.toList_map

theorem toLower_ofList (cs : List Char) : (String.ofList cs).toLower = String.ofList (lower cs) :=
  String.ext (by rw [toList_toLower, String.toList_ofList, String.toList_ofList])

theorem toUpper_ofList_lower (cs : List Char) :
    (String.ofList (lower cs)).toUpper = (String.ofList cs).toUpper := by
  apply String.ext
  simp [String.toUpper, lower]

/-- A class without letters does not depend on their case. -/
theorem apply_toLower {p : Char → Bool} (hp : ∀ c, c.isAlpha = true → p c = false) (c : Char) :
    p c.toLower = p c := by
  cases halpha : c.isAlpha with
  | false => rw [Wkt.toLower_of_not_isAlpha halpha]
  | true => rw [hp c halpha, hp _ ((Char.isAlpha_toLower_eq_isAlpha c).trans halpha)]

theorem toLower_eq_iff {c d : Char} (hd : d.isAlpha = false) : c.toLower = d ↔ c = d := by
  have hclass := apply_toLower (p := fun c => c == d) (fun c hc => ?_) c
  · simpa using hclass
  · rw [beq_eq_false_iff_ne]
    rintro rfl
    rw [hc] at hd
    cases hd

/-- A character is a mark, or it is not and is not in lower case either. -/
theorem eq_or_toLower_ne {d : Char} (hd : d.isAlpha = false) (c : Char) :
    c = d ∨ c ≠ d ∧ c.toLower ≠ d := by
  by_cases hc : c = d
  · exact .inl hc
  · exact .inr ⟨hc, mt (toLower_eq_iff hd).mp hc⟩

/-- A character is in lower case, or it is the capital of one. -/
theorem eq_toLower_or_eq_toUpper (c : Char) : c = c.toLower ∨ c = c.toLower.toUpper := by
  by_cases hupper : c.isUpper = true
  · refine .inr ?_
    rw [Char.toUpper_toLower_eq_toUpper, Char.toUpper_eq_of_not_isLower]
    exact Char.not_isLower_of_isUpper hupper
  · exact .inl (Char.toLower_eq_of_not_isUpper hupper).symm

/-- A choice among letters in both cases does not depend on the case. -/
theorem toLower_mem_iff {letters : List Char}
    (h : letters.all (fun d => d.toLower ∈ letters && d.toUpper ∈ letters) = true) {c : Char} :
    c.toLower ∈ letters ↔ c ∈ letters := by
  have hboth : ∀ d ∈ letters, d.toLower ∈ letters ∧ d.toUpper ∈ letters := by simpa using h
  constructor
  · intro hc
    rcases eq_toLower_or_eq_toUpper c with heq | heq
    · rwa [heq]
    · rw [heq]
      exact (hboth _ hc).2
  · exact fun hc => (hboth c hc).1

theorem isDecimalDigit_toLower (c : Char) : isDecimalDigit c.toLower = isDecimalDigit c := by
  refine apply_toLower (fun c hc => ?_) c
  rw [Bool.eq_false_iff]
  intro hdigit
  rw [Wkt.not_isAlpha_of_isDecimalDigit hdigit] at hc
  cases hc

theorem not_isAlpha_of_isDigit {c : Char} (h : c.isDigit = true) : c.isAlpha = false :=
  Wkt.not_isAlpha_of_isDecimalDigit (isDecimalDigit_of_isDigit h)

theorem isDigit_toLower (c : Char) : c.toLower.isDigit = c.isDigit := by
  refine apply_toLower (fun c hc => ?_) c
  rw [Bool.eq_false_iff]
  intro hdigit
  rw [not_isAlpha_of_isDigit hdigit] at hc
  cases hc

theorem isBlankChar_toLower (c : Char) : isBlankChar c.toLower = isBlankChar c :=
  apply_toLower (fun _ hc => Wkt.isBlankChar_of_isAlpha hc) c

/-- A letter has one byte in either case. -/
theorem utf8Size_toLower (c : Char) : c.toLower.utf8Size = c.utf8Size := by
  have hsize : ∀ d : Char, d.isAlpha = true → d.utf8Size = 1 := by
    intro d hd
    have hcode := Wkt.toNat_of_isAlpha hd
    rw [Char.utf8Size_eq_one_iff, UInt32.le_iff_toNat_le]
    change d.toNat ≤ 127
    omega
  cases halpha : c.isAlpha with
  | false => rw [Wkt.toLower_of_not_isAlpha halpha]
  | true => rw [hsize c halpha, hsize _ ((Char.isAlpha_toLower_eq_isAlpha c).trans halpha)]

/-! ## Runs -/

section
variable {p : Char → Bool} (hp : ∀ c : Char, p c.toLower = p c) (cs : List Char)
include hp

theorem takeWhile_lower : (lower cs).takeWhile p = lower (cs.takeWhile p) := by
  rw [lower, List.takeWhile_map, Function.comp_def, funext hp]
  rfl

theorem dropWhile_lower : (lower cs).dropWhile p = lower (cs.dropWhile p) := by
  rw [lower, List.dropWhile_map, Function.comp_def, funext hp]
  rfl

theorem span_lower : (lower cs).span p = (cs.span p).map lower lower := by
  rw [List.span_eq_takeWhile_dropWhile, List.span_eq_takeWhile_dropWhile, takeWhile_lower hp,
    dropWhile_lower hp]
  rfl

theorem all_lower : (lower cs).all p = cs.all p := by
  rw [lower, List.all_map, Function.comp_def, funext hp]

end

end Text

/-! ## Numbers -/

namespace Decimal

open Text

theorem splitSign_lower (cs : List Char) : splitSign (lower cs) = (splitSign cs).map id lower := by
  cases cs with
  | nil => rfl
  | cons c cs =>
    rcases eq_or_toLower_ne (d := '-') rfl c with rfl | ⟨hminus, hminus'⟩
    · rfl
    · rcases eq_or_toLower_ne (d := '+') rfl c with rfl | ⟨hplus, hplus'⟩
      · rfl
      · simp [splitSign, hminus, hplus, hminus', hplus']

theorem spanDigits_lower (cs : List Char) :
    spanDigits (lower cs) = (spanDigits cs).map id lower := by
  have hdigits : ∀ c ∈ cs.takeWhile Char.isDigit, c.isAlpha = false := fun c hc =>
    not_isAlpha_of_isDigit (List.all_eq_true.mp List.all_takeWhile c hc)
  rw [spanDigits, span_lower isDigit_toLower, spanDigits, List.span_eq_takeWhile_dropWhile,
    Prod.map_apply, Prod.map_apply, lower_eq_self hdigits]
  rfl

theorem isMark_toLower {c : Char} : (c.toLower = 'e' ∨ c.toLower = 'E') ↔ c = 'e' ∨ c = 'E' := by
  have hmarks : c.toLower ∈ ['e', 'E'] ↔ c ∈ ['e', 'E'] := toLower_mem_iff (by decide)
  simpa using hmarks

theorem readExponent?_lower (cs : List Char) : readExponent? (lower cs) = readExponent? cs := by
  cases cs with
  | nil => rfl
  | cons c cs =>
    simp only [lower_cons, readExponent?, isMark_toLower, splitSign_lower, Prod.map_fst,
      Prod.map_snd, id_eq, ne_eq, lower_eq_nil_iff, all_lower isDigit_toLower]
    split
    · split
      · rename_i hdigits
        rw [lower_eq_self fun c hc => not_isAlpha_of_isDigit (List.all_eq_true.mp hdigits.2 c hc)]
      · rfl
    · rfl

theorem readSize?_lower (cs : List Char) : readSize? (lower cs) = readSize? cs := by
  have hword : (lower cs).map Char.toLower = cs.map Char.toLower := by simp [lower]
  unfold readSize?
  dsimp only
  rw [hword, spanDigits_lower]
  -- What follows is no word: digits, perhaps with a point, and an exponent.
  refine congrArg (ite _ _) (congrArg (ite _ _) ?_)
  generalize spanDigits cs = span
  obtain ⟨whole, after⟩ := span
  cases after with
  | nil => rfl
  | cons c after =>
    rcases eq_or_toLower_ne (d := '.') rfl c with rfl | ⟨hpoint, hpoint'⟩
    · simp only [Prod.map_apply, lower_cons_mark (d := '.') rfl, spanDigits_lower, Prod.map_fst,
        Prod.map_snd, readExponent?_lower, id_eq]
    · have hexponent := readExponent?_lower (c :: after)
      rw [lower_cons] at hexponent
      simp only [Prod.map_apply, lower_cons, id_eq]
      simp [hpoint, hpoint', hexponent]

theorem readFloat?_lower (cs : List Char) : readFloat? (lower cs) = readFloat? cs := by
  simp only [readFloat?, splitSign_lower, Prod.map_fst, Prod.map_snd, id_eq, readSize?_lower]

end Decimal

end GeoDrafts
