import GeoDrafts.Proofs.Format.Wkt.Coords
import GeoDrafts.Proofs.Text.Run

/-!
From characters to tokens. A word or a number ends where a space, a comma or a parenthesis follows,
or the text ends; so the tokens of a text are those of its pieces, one after the other.
-/

namespace GeoDrafts.Wkt

/-- A text gives certain tokens, wherever it starts and with any fuel that is enough. -/
def Lexes (cs : List Char) (ts : List Token) : Prop :=
  ∀ fuel offset, cs.length ≤ fuel → ∃ ls, tokensFrom fuel offset cs = .ok ls ∧ plain ls = ts

/-- Neither a word nor a number goes on with the next character. -/
def EndsToken (rest : List Char) : Prop :=
  ∀ c ∈ rest.head?, c = ' ' ∨ c = '(' ∨ c = ')' ∨ c = ','

theorem EndsToken.forall {rest : List Char} (h : EndsToken rest) {p : Char → Prop}
    (hp : p ' ' ∧ p '(' ∧ p ')' ∧ p ',') : ∀ c ∈ rest.head?, p c := by
  intro c hc
  rcases h c hc with rfl | rfl | rfl | rfl
  · exact hp.1
  · exact hp.2.1
  · exact hp.2.2.1
  · exact hp.2.2.2

/-! ## Numbers -/

/-- The characters of a number up to its exponent: digits with a point behind, among or before
them, or without one. -/
inductive MantissaText : List Char → Prop where
  | whole {digits : List Char} (hne : digits ≠ [])
      (hdigits : ∀ d ∈ digits, Text.isDecimalDigit d = true) : MantissaText digits
  | point {whole fraction : List Char} (hne : whole ≠ [])
      (hwhole : ∀ d ∈ whole, Text.isDecimalDigit d = true)
      (hfraction : ∀ d ∈ fraction, Text.isDecimalDigit d = true) :
    MantissaText (whole ++ '.' :: fraction)
  | fraction {digits : List Char} (hne : digits ≠ [])
      (hdigits : ∀ d ∈ digits, Text.isDecimalDigit d = true) : MantissaText ('.' :: digits)

inductive ExponentText : List Char → Prop where
  | none : ExponentText []
  | mark {c : Char} {sign digits : List Char} (hc : c = 'e' ∨ c = 'E')
      (hsign : sign = [] ∨ sign = ['-'] ∨ sign = ['+']) (hne : digits ≠ [])
      (hdigits : ∀ d ∈ digits, Text.isDecimalDigit d = true) :
    ExponentText (c :: (sign ++ digits))

inductive NumberText : List Char → Prop where
  | parts {sign mantissa exponent : List Char} (hsign : sign = [] ∨ sign = ['-'] ∨ sign = ['+'])
      (hmantissa : MantissaText mantissa) (hexponent : ExponentText exponent) :
    NumberText (sign ++ (mantissa ++ exponent))

theorem spanDecimals_append {digits rest : List Char}
    (hdigits : ∀ d ∈ digits, Text.isDecimalDigit d = true)
    (hrest : ∀ c ∈ rest.head?, Text.isDecimalDigit c = false) :
    spanDecimals (digits ++ rest) = (digits, rest) :=
  Text.span_run hdigits hrest

theorem spanSign_append {sign rest : List Char} (hsign : sign = [] ∨ sign = ['-'] ∨ sign = ['+'])
    (hrest : ∀ c ∈ rest.head?, c ≠ '-' ∧ c ≠ '+') : spanSign (sign ++ rest) = (sign, rest) := by
  rcases hsign with rfl | rfl | rfl
  · cases rest with
    | nil => rfl
    | cons c rest =>
      obtain ⟨hminus, hplus⟩ := hrest c rfl
      rw [List.nil_append, spanSign]
      · exact fun more heq => hminus (List.cons.inj heq).1
      · exact fun more heq => hplus (List.cons.inj heq).1
  · rfl
  · rfl

theorem not_sign_of_isDecimalDigit {c : Char} (h : Text.isDecimalDigit c = true) :
    c ≠ '-' ∧ c ≠ '+' := by
  constructor <;> rintro rfl <;> exact absurd h (by decide +kernel)

theorem splitMantissa?_append {mantissa rest : List Char} (h : MantissaText mantissa)
    (hrest : ∀ c ∈ rest.head?, Text.isDecimalDigit c = false ∧ c ≠ '.') :
    splitMantissa? (mantissa ++ rest) = some (mantissa, rest) := by
  have hdigit : ∀ c ∈ rest.head?, Text.isDecimalDigit c = false := fun c hc => (hrest c hc).1
  have hpoint : ∀ cs : List Char, ∀ c ∈ ('.' :: cs).head?, Text.isDecimalDigit c = false := by
    intro cs c hc
    obtain rfl : '.' = c := Option.some.inj hc
    decide +kernel
  unfold splitMantissa?
  cases h with
  | whole hne hdigits =>
    rw [spanDecimals_append hdigits hdigit]
    split
    · rename_i heq
      exact absurd (Prod.mk.inj heq).1 hne
    · rename_i heq
      exact absurd (Prod.mk.inj heq).1 hne
    · rename_i heq
      obtain ⟨-, rfl⟩ := Prod.mk.inj heq
      exact absurd rfl (hrest '.' rfl).2
    · rename_i heq
      rw [heq]
  | @point whole fraction hne hwhole hfraction =>
    rw [List.append_assoc, List.cons_append, spanDecimals_append hwhole (hpoint _)]
    split
    · rename_i heq
      exact absurd (Prod.mk.inj heq).1 hne
    · rename_i heq
      exact absurd (Prod.mk.inj heq).1 hne
    · rename_i heq
      cases heq
      rw [spanDecimals_append hfraction hdigit]
    · rename_i hnone heq
      cases heq
      exact absurd rfl (hnone _)
  | @fraction digits hne hdigits =>
    have hspan : spanDecimals ([] ++ '.' :: (digits ++ rest)) = ([], '.' :: (digits ++ rest)) :=
      spanDecimals_append (by simp) (hpoint _)
    rw [List.cons_append, ← List.nil_append ('.' :: _), hspan]
    change (if (spanDecimals (digits ++ rest)).1 = [] then none else
      some ('.' :: (spanDecimals (digits ++ rest)).1, (spanDecimals (digits ++ rest)).2)) = _
    rw [spanDecimals_append hdigits hdigit, if_neg hne]

theorem spanExponent_append {exponent rest : List Char} (h : ExponentText exponent)
    (hrest : EndsToken rest) : spanExponent (exponent ++ rest) = (exponent, rest) := by
  cases h with
  | none =>
    cases rest with
    | nil => rfl
    | cons c rest =>
      have hmark := hrest.forall (p := fun c => ¬ (c = 'e' ∨ c = 'E')) (by decide) c rfl
      rw [List.nil_append, spanExponent, if_neg hmark]
  | @mark c sign digits hc hsign hne hdigits =>
    have hdigit := hrest.forall (p := fun c => Text.isDecimalDigit c = false) (by decide +kernel)
    have hhead : ∀ d ∈ (digits ++ rest).head?, d ≠ '-' ∧ d ≠ '+' := by
      obtain ⟨first, more, rfl⟩ := List.exists_cons_of_ne_nil hne
      intro d hd
      obtain rfl : first = d := Option.some.inj hd
      exact not_sign_of_isDecimalDigit (hdigits first List.mem_cons_self)
    rw [List.cons_append, List.append_assoc, spanExponent, if_pos hc,
      spanSign_append hsign hhead]
    dsimp only
    rw [spanDecimals_append hdigits hdigit]
    dsimp only
    rw [if_neg hne, List.cons_append]

/-- The digits of a number start with a digit or the point. -/
theorem MantissaText.head {mantissa : List Char} (h : MantissaText mantissa) :
    ∃ c more, mantissa = c :: more ∧ (c = '.' ∨ Text.isDecimalDigit c = true) := by
  cases h with
  | whole hne hdigits =>
    obtain ⟨c, more, rfl⟩ := List.exists_cons_of_ne_nil hne
    exact ⟨c, more, rfl, .inr (hdigits c List.mem_cons_self)⟩
  | point hne hwhole =>
    obtain ⟨c, more, rfl⟩ := List.exists_cons_of_ne_nil hne
    exact ⟨c, _, rfl, .inr (hwhole c List.mem_cons_self)⟩
  | fraction => exact ⟨'.', _, rfl, .inl rfl⟩

theorem splitNumber?_append {number rest : List Char} (h : NumberText number)
    (hrest : EndsToken rest) : splitNumber? (number ++ rest) = some (number, rest) := by
  cases h with
  | @parts sign mantissa exponent hsign hmantissa hexponent =>
    have hafter : ∀ c ∈ (exponent ++ rest).head?, Text.isDecimalDigit c = false ∧ c ≠ '.' := by
      cases hexponent with
      | none =>
        exact hrest.forall (p := fun c => Text.isDecimalDigit c = false ∧ c ≠ '.')
          (by decide +kernel)
      | @mark c sign digits hc =>
        intro d hd
        obtain rfl : c = d := Option.some.inj hd
        rcases hc with rfl | rfl <;> decide +kernel
    have hhead : ∀ c ∈ (mantissa ++ (exponent ++ rest)).head?, c ≠ '-' ∧ c ≠ '+' := by
      obtain ⟨first, more, rfl, hfirst⟩ := hmantissa.head
      intro c hc
      obtain rfl : first = c := Option.some.inj hc
      rcases hfirst with rfl | hdigit
      · decide
      · exact not_sign_of_isDecimalDigit hdigit
    rw [splitNumber?, List.append_assoc, List.append_assoc, spanSign_append hsign hhead]
    dsimp only
    rw [splitMantissa?_append hmantissa hafter, Option.bind_eq_bind, Option.bind_some]
    dsimp only
    rw [spanExponent_append hexponent hrest, List.append_assoc]

/-- A number starts with none of the characters of other tokens. -/
theorem NumberText.head {number : List Char} (h : NumberText number) :
    ∃ c more, number = c :: more ∧ Text.isBlankChar c = false ∧ c.isAlpha = false ∧
      c ≠ '(' ∧ c ≠ ')' ∧ c ≠ ',' := by
  cases h with
  | @parts sign mantissa exponent hsign hmantissa hexponent =>
    obtain ⟨c, more, rfl, hc⟩ := hmantissa.head
    rcases hsign with rfl | rfl | rfl
    · refine ⟨c, _, rfl, ?_⟩
      rcases hc with rfl | hdigit
      · decide
      · have hne : ∀ d, Text.isDecimalDigit d = false → c ≠ d := by
          rintro d hd rfl
          rw [hd] at hdigit
          cases hdigit
        exact ⟨Text.isBlankChar_of_isDecimalDigit hdigit, not_isAlpha_of_isDecimalDigit hdigit,
          hne '(' (by decide +kernel), hne ')' (by decide +kernel), hne ',' (by decide +kernel)⟩
    · exact ⟨'-', _, rfl, by decide⟩
    · exact ⟨'+', _, rfl, by decide⟩

/-! ## Pieces of a text -/

section
variable {cs rest : List Char} {ts : List Token}

theorem lexes_nil : Lexes [] [] := by
  intro fuel offset _
  exact ⟨[], by cases fuel <;> rfl, rfl⟩

/-- One step of the reader takes one token off. -/
theorem lexes_of_step {token : Token} (hlength : rest.length < cs.length) (hrest : Lexes rest ts)
    (hstep : ∀ fuel offset, ∃ finish, tokensFrom (fuel + 1) offset cs =
      (tokensFrom fuel finish rest).map (⟨offset, token⟩ :: ·)) : Lexes cs (token :: ts) := by
  intro fuel offset hfuel
  obtain ⟨fuel, rfl⟩ : ∃ m, fuel = m + 1 := ⟨fuel - 1, by omega⟩
  obtain ⟨finish, heq⟩ := hstep fuel offset
  obtain ⟨ls, hls, rfl⟩ := hrest fuel finish (by omega)
  exact ⟨⟨offset, token⟩ :: ls, by rw [heq, hls]; rfl, rfl⟩

theorem lexes_space (h : Lexes cs ts) : Lexes (' ' :: cs) ts := by
  intro fuel offset hfuel
  rw [List.length_cons] at hfuel
  obtain ⟨fuel, rfl⟩ : ∃ m, fuel = m + 1 := ⟨fuel - 1, by omega⟩
  exact h fuel (offset + 1) (by omega)

theorem lexes_opening (h : Lexes cs ts) : Lexes ('(' :: cs) (.opening :: ts) :=
  lexes_of_step (Nat.lt_succ_self _) h fun _ offset => ⟨offset + 1, rfl⟩

theorem lexes_closing (h : Lexes cs ts) : Lexes (')' :: cs) (.closing :: ts) :=
  lexes_of_step (Nat.lt_succ_self _) h fun _ offset => ⟨offset + 1, rfl⟩

theorem lexes_comma (h : Lexes cs ts) : Lexes (',' :: cs) (.comma :: ts) :=
  lexes_of_step (Nat.lt_succ_self _) h fun _ offset => ⟨offset + 1, rfl⟩

theorem lexes_number {number : List Char} {x : Float} (hnumber : NumberText number)
    (hx : Decimal.readFloat? number = some x) (hrest : EndsToken rest) (h : Lexes rest ts) :
    Lexes (number ++ rest) (.number x :: ts) := by
  have hsplit := splitNumber?_append hnumber hrest
  obtain ⟨c, more, rfl, hblank, halpha, hopening, hclosing, hcomma⟩ := hnumber.head
  refine lexes_of_step (by simp) h fun fuel offset => ⟨offset + byteLength (c :: more), ?_⟩
  rw [List.cons_append] at hsplit ⊢
  rw [tokensFrom]
  simp only [hblank, halpha, hopening, hclosing, hcomma, hsplit, hx, if_false,
    Bool.false_eq_true]
  rfl

theorem lexes_word {word : List Char} (hne : word ≠ []) (hword : ∀ c ∈ word, c.isAlpha = true)
    (hrest : EndsToken rest) (h : Lexes rest ts) :
    Lexes (word ++ rest) (.word (String.ofList word).toUpper :: ts) := by
  obtain ⟨c, more, rfl⟩ := List.exists_cons_of_ne_nil hne
  rw [List.forall_mem_cons] at hword
  have halpha := hrest.forall (p := fun c => c.isAlpha = false) (by decide)
  exact lexes_of_step (by simp) h fun fuel offset =>
    ⟨_, tokensFrom_word hword.1 hword.2 halpha fuel offset⟩

end

end GeoDrafts.Wkt
