import GeoDrafts.Proofs.Format.Wkt.Lexing

/-!
The characters of well-known text. A text that is read holds only characters of tokens and blanks
between them, and its first character that is no blank starts the word for a kind of geometry or
the number of a reference system.
-/

namespace GeoDrafts.Wkt

/-! ## Numbers -/

theorem eq_of_spanDecimals {cs digits rest : List Char} (h : spanDecimals cs = (digits, rest)) :
    cs = digits ++ rest := by
  rw [spanDecimals, List.span_eq_takeWhile_dropWhile, Prod.mk.injEq] at h
  rw [← h.1, ← h.2, List.takeWhile_append_dropWhile]

theorem sign_of_spanSign {cs sign rest : List Char} (h : spanSign cs = (sign, rest)) :
    (sign = [] ∨ sign = ['-'] ∨ sign = ['+']) ∧ cs = sign ++ rest := by
  unfold spanSign at h
  split at h <;> cases h <;> simp

theorem mantissaText_of_splitMantissa? {cs mantissa rest : List Char}
    (h : splitMantissa? cs = some (mantissa, rest)) :
    MantissaText mantissa ∧ cs = mantissa ++ rest := by
  unfold splitMantissa? at h
  cases hspan : spanDecimals cs with
  | mk whole after =>
    have hwhole := isDecimalDigit_of_spanDecimals hspan
    obtain rfl := eq_of_spanDecimals hspan
    rw [hspan] at h
    split at h
    · rename_i more heq
      obtain ⟨rfl, rfl⟩ := Prod.mk.inj heq
      cases hfraction : spanDecimals more with
      | mk fraction rest' =>
        simp only [hfraction, Option.ite_none_left_eq_some, Option.some.injEq,
          Prod.mk.injEq] at h
        obtain ⟨hne, rfl, rfl⟩ := h
        exact ⟨.fraction hne (isDecimalDigit_of_spanDecimals hfraction),
          by rw [eq_of_spanDecimals hfraction]; rfl⟩
    · cases h
    · rename_i more hne heq
      obtain ⟨rfl, rfl⟩ := Prod.mk.inj heq
      cases hfraction : spanDecimals more with
      | mk fraction rest' =>
        simp only [hfraction, Option.some.injEq, Prod.mk.injEq] at h
        obtain ⟨rfl, rfl⟩ := h
        refine ⟨.point hne hwhole
          (isDecimalDigit_of_spanDecimals hfraction), ?_⟩
        rw [eq_of_spanDecimals hfraction, List.append_assoc]
        rfl
    · rename_i hne _ heq
      obtain ⟨rfl, rfl⟩ := Prod.mk.inj heq
      cases h
      exact ⟨.whole hne hwhole, rfl⟩

theorem exponentText_of_spanExponent {cs exponent rest : List Char}
    (h : spanExponent cs = (exponent, rest)) : ExponentText exponent ∧ cs = exponent ++ rest := by
  unfold spanExponent at h
  split at h
  · rename_i mark more
    split at h
    · rename_i hmark
      cases hsign : spanSign more with
      | mk sign after =>
        obtain ⟨hsign', rfl⟩ := sign_of_spanSign hsign
        cases hdigits : spanDecimals after with
        | mk digits rest' =>
          obtain rfl := eq_of_spanDecimals hdigits
          simp only [hsign, hdigits] at h
          split at h
          · cases h
            exact ⟨.none, rfl⟩
          · rename_i hne
            cases h
            exact ⟨.mark hmark hsign' hne (isDecimalDigit_of_spanDecimals hdigits), by simp⟩
    · cases h
      exact ⟨.none, rfl⟩
  · cases h
    exact ⟨.none, rfl⟩

/-- What is split off is a number. -/
theorem numberText_of_splitNumber? {cs number rest : List Char}
    (h : splitNumber? cs = some (number, rest)) : NumberText number ∧ cs = number ++ rest := by
  unfold splitNumber? at h
  cases hsign : spanSign cs with
  | mk sign afterSign =>
    obtain ⟨hsign', rfl⟩ := sign_of_spanSign hsign
    rw [hsign] at h
    obtain ⟨⟨mantissa, afterMantissa⟩, hmantissa, hsome⟩ := Option.bind_eq_some_iff.mp h
    obtain ⟨hmantissa', rfl⟩ := mantissaText_of_splitMantissa? hmantissa
    cases hexponent : spanExponent afterMantissa with
    | mk exponent rest' =>
      obtain ⟨hexponent', rfl⟩ := exponentText_of_spanExponent hexponent
      simp only [hexponent, Option.some.injEq, Prod.mk.injEq] at hsome
      obtain ⟨rfl, rfl⟩ := hsome
      rw [List.append_assoc]
      exact ⟨.parts hsign' hmantissa' hexponent', by simp only [List.append_assoc]⟩

/-! ## Tokens -/

inductive TokenText : Token → List Char → Prop where
  | opening : TokenText .opening ['(']
  | closing : TokenText .closing [')']
  | comma : TokenText .comma [',']
  | word {run : List Char} (hne : run ≠ []) (hrun : ∀ c ∈ run, c.isAlpha = true) :
    TokenText (.word (String.ofList run).toUpper) run
  | number {run : List Char} {x : Float} (hrun : NumberText run)
      (hx : Decimal.readFloat? run = some x) : TokenText (.number x) run

theorem TokenText.ne_nil {token : Token} {run : List Char} (h : TokenText token run) :
    run ≠ [] := by
  cases h with
  | word hne => exact hne
  | number hrun =>
    obtain ⟨c, more, rfl, -⟩ := hrun.head
    exact List.cons_ne_nil c more
  | _ => exact List.cons_ne_nil _ _

/-- **A step.** The reader passes a blank, or takes one token off. -/
theorem tokensFrom_cons {fuel offset : Nat} {c : Char} {cs : List Char} {ts : List Lexeme}
    (h : tokensFrom (fuel + 1) offset (c :: cs) = .ok ts) :
    (Text.isBlankChar c = true ∧ ∃ finish, tokensFrom fuel finish cs = .ok ts) ∨
    (Text.isBlankChar c = false ∧ ∃ token run rest finish more, TokenText token run ∧
      c :: cs = run ++ rest ∧ tokensFrom fuel finish rest = .ok more ∧
      ts = ⟨offset, token⟩ :: more) := by
  have htake : ∀ {token run rest finish}, TokenText token run → c :: cs = run ++ rest →
      (do
        let more ← tokensFrom fuel finish rest
        .ok (⟨offset, token⟩ :: more)) = Except.ok ts →
      ∃ token run rest finish more, TokenText token run ∧ c :: cs = run ++ rest ∧
        tokensFrom fuel finish rest = .ok more ∧ ts = ⟨offset, token⟩ :: more := by
    intro token run rest finish htoken hcs h
    obtain ⟨more, hmore, h⟩ := exists_of_bind h
    cases h
    exact ⟨token, run, rest, finish, more, htoken, hcs, hmore, rfl⟩
  unfold tokensFrom at h
  dsimp only at h
  split at h
  · rename_i hblank
    exact .inl ⟨hblank, _, h⟩
  · rename_i hblank
    refine .inr ⟨Bool.eq_false_of_not_eq_true hblank, ?_⟩
    split at h
    · rename_i hc
      exact htake .opening (by rw [hc]; rfl) h
    · split at h
      · rename_i hc
        exact htake .closing (by rw [hc]; rfl) h
      · split at h
        · rename_i hc
          exact htake .comma (by rw [hc]; rfl) h
        · split at h
          · rename_i halpha
            have hrun : ∀ d ∈ c :: cs.takeWhile Char.isAlpha, d.isAlpha = true :=
              List.forall_mem_cons.mpr ⟨halpha, List.all_eq_true.mp List.all_takeWhile⟩
            refine htake (.word (List.cons_ne_nil _ _) hrun) ?_ h
            rw [List.cons_append, List.takeWhile_append_dropWhile]
          · split at h
            · cases h
            · rename_i hsplit
              obtain ⟨hnumber, hcs⟩ := numberText_of_splitNumber? hsplit
              split at h
              · cases h
              · rename_i hx
                exact htake (.number hnumber hx) hcs h

/-- The first token, if it is a word, is what the text starts with behind its blanks. -/
theorem exists_word_of_tokensFrom {fuel offset start : Nat} {cs : List Char} {w : String}
    {more : List Lexeme} (h : tokensFrom fuel offset cs = .ok (⟨start, .word w⟩ :: more)) :
    ∃ run rest, TokenText (.word w) run ∧ cs.dropWhile Text.isBlankChar = run ++ rest := by
  induction fuel generalizing offset cs with
  | zero => cases h
  | succ fuel ih =>
    cases cs with
    | nil => cases h
    | cons c cs =>
      rcases tokensFrom_cons h with ⟨hblank, finish, h⟩ | ⟨hblank, token, run, rest, _, _, htoken,
        hcs, -, heq⟩
      · rw [List.dropWhile_cons_of_pos hblank]
        exact ih h
      · cases heq
        refine ⟨run, rest, htoken, ?_⟩
        rw [List.dropWhile_cons_of_neg (by simp [hblank]), hcs]

/-! ## Characters -/

/-- The characters of tokens and of the number of a reference system, and the blanks between
them. -/
def isTextChar (c : Char) : Bool :=
  Text.isBlankChar c || c.isAlpha || Text.isDecimalDigit c ||
    ['(', ')', ',', '.', '-', '+', 'ſ', '=', ';'].contains c

theorem isTextChar_of_isBlankChar {c : Char} (h : Text.isBlankChar c = true) :
    isTextChar c = true := by
  rw [isTextChar, h]
  rfl

theorem isTextChar_of_isAlpha {c : Char} (h : c.isAlpha = true) : isTextChar c = true := by
  simp [isTextChar, h]

theorem isTextChar_of_isDecimalDigit {c : Char} (h : Text.isDecimalDigit c = true) :
    isTextChar c = true := by
  simp [isTextChar, h]

theorem isTextChar_of_sign {sign : List Char} (h : sign = [] ∨ sign = ['-'] ∨ sign = ['+']) :
    ∀ c ∈ sign, isTextChar c = true := by
  rcases h with rfl | rfl | rfl <;> simp [isTextChar]

theorem NumberText.isTextChar {number : List Char} (h : NumberText number) :
    ∀ c ∈ number, isTextChar c = true := by
  have hdigits : ∀ {digits : List Char}, (∀ d ∈ digits, Text.isDecimalDigit d = true) →
      ∀ d ∈ digits, Wkt.isTextChar d = true :=
    fun hdigits d hd => isTextChar_of_isDecimalDigit (hdigits d hd)
  cases h with
  | parts hsign hmantissa hexponent =>
    rw [List.forall_mem_append, List.forall_mem_append]
    refine ⟨isTextChar_of_sign hsign, ?_, ?_⟩
    · cases hmantissa with
      | whole _ hwhole => exact hdigits hwhole
      | point _ hwhole hfraction =>
        exact List.forall_mem_append.mpr
          ⟨hdigits hwhole, List.forall_mem_cons.mpr ⟨by decide, hdigits hfraction⟩⟩
      | fraction _ hfraction => exact List.forall_mem_cons.mpr ⟨by decide, hdigits hfraction⟩
    · cases hexponent with
      | none => exact fun c hc => absurd hc List.not_mem_nil
      | mark hc hsign _ hexponent =>
        refine List.forall_mem_cons.mpr ⟨?_, List.forall_mem_append.mpr
          ⟨isTextChar_of_sign hsign, hdigits hexponent⟩⟩
        rcases hc with rfl | rfl <;> decide

theorem TokenText.isTextChar {token : Token} {run : List Char} (h : TokenText token run) :
    ∀ c ∈ run, isTextChar c = true := by
  cases h with
  | word _ hrun => exact fun c hc => isTextChar_of_isAlpha (hrun c hc)
  | number hrun => exact hrun.isTextChar
  | _ => exact List.forall_mem_singleton.mpr (by decide)

theorem isTextChar_of_tokensFrom {fuel offset : Nat} {cs : List Char} {ts : List Lexeme}
    (hfuel : cs.length ≤ fuel) (h : tokensFrom fuel offset cs = .ok ts) :
    ∀ c ∈ cs, isTextChar c = true := by
  induction fuel generalizing offset cs ts with
  | zero =>
    rw [List.length_eq_zero_iff.mp (Nat.le_zero.mp hfuel)]
    exact fun c hc => absurd hc List.not_mem_nil
  | succ fuel ih =>
    cases cs with
    | nil => exact fun c hc => absurd hc List.not_mem_nil
    | cons c cs =>
      rcases tokensFrom_cons h with ⟨hblank, _, h⟩ | ⟨-, token, run, rest, _, _, htoken, hcs, h, -⟩
      · exact List.forall_mem_cons.mpr
          ⟨isTextChar_of_isBlankChar hblank, ih (Nat.le_of_succ_le_succ hfuel) h⟩
      · have hlength : rest.length ≤ fuel := by
          have hrun := List.length_pos_iff.mpr htoken.ne_nil
          rw [hcs, List.length_append] at hfuel
          omega
        rw [hcs, List.forall_mem_append]
        exact ⟨htoken.isTextChar, ih hlength h⟩

/-! ## The number of a reference system -/

/-- The letters that are dropped, one of each list. -/
theorem forall₂_of_dropLetters? {letters : List (List Char)} {cs rest : List Char}
    (h : dropLetters? letters cs = some rest) :
    ∃ run, cs = run ++ rest ∧ List.Forall₂ (fun c choice => c ∈ choice) run letters := by
  induction letters generalizing cs with
  | nil =>
    cases h
    exact ⟨[], rfl, .nil⟩
  | cons choice letters ih =>
    cases cs with
    | nil => cases h
    | cons c cs =>
      obtain ⟨hc, h⟩ := Option.ite_none_right_eq_some.mp h
      obtain ⟨run, rfl, hrun⟩ := ih h
      exact ⟨c :: run, rfl, .cons hc hrun⟩

theorem forall_of_choices {P : Char → Prop} {run : List Char} {letters : List (List Char)}
    (h : List.Forall₂ (fun c choice => c ∈ choice) run letters)
    (hP : ∀ choice ∈ letters, ∀ c ∈ choice, P c) : ∀ c ∈ run, P c := by
  induction h with
  | nil => exact fun c hc => absurd hc List.not_mem_nil
  | cons hc _ ih =>
    obtain ⟨hfirst, hrest⟩ := List.forall_mem_cons.mp hP
    exact List.forall_mem_cons.mpr ⟨hfirst _ hc, ih hrest⟩

/-- What stands before the text proper. -/
theorem exists_of_afterSystem? {cs rest : List Char} (h : afterSystem? cs = some rest) :
    ∃ run digits blanks, List.Forall₂ (fun c choice => c ∈ choice) run systemLetters ∧
      digits ≠ [] ∧ (∀ d ∈ digits, Text.isDecimalDigit d = true) ∧
      (∀ c ∈ blanks, Text.isBlankChar c = true) ∧
      cs.dropWhile Text.isBlankChar = run ++ '=' :: (digits ++ (blanks ++ ';' :: rest)) := by
  unfold afterSystem? at h
  split at h
  · rename_i after hletters
    obtain ⟨run, hcs, hrun⟩ := forall₂_of_dropLetters? hletters
    cases hdigits : spanDecimals after with
    | mk digits behind =>
      simp only [hdigits] at h
      split at h
      · rename_i rest' hmark
        obtain ⟨hne, h⟩ := Option.ite_none_left_eq_some.mp h
        cases h
        refine ⟨run, digits, behind.takeWhile Text.isBlankChar, hrun, hne,
          isDecimalDigit_of_spanDecimals hdigits, List.all_eq_true.mp List.all_takeWhile, ?_⟩
        rw [hcs, eq_of_spanDecimals hdigits, ← hmark, List.takeWhile_append_dropWhile]
      · cases h
  · cases h

/-! ## Texts -/

/-- A text that is read has no other characters. -/
theorem isTextChar_of_decode {text : String} {features : List Feature}
    (h : decode text = .ok features) : ∀ c ∈ text.toList, isTextChar c = true := by
  obtain ⟨ts, htokens, -⟩ := exists_of_bind h
  have hbody := isTextChar_of_tokensFrom (Nat.le_refl _) htokens
  cases hafter : afterSystem? text.toList with
  | none => rwa [body, hafter] at hbody
  | some rest =>
    rw [body, hafter, Option.getD_some] at hbody
    obtain ⟨run, digits, blanks, hrun, -, hdigits, hblanks, hcs⟩ := exists_of_afterSystem? hafter
    have hletters : systemLetters.all (List.all · isTextChar) = true := by decide +kernel
    rw [← List.takeWhile_append_dropWhile (p := Text.isBlankChar) (l := text.toList), hcs]
    simp only [List.forall_mem_append, List.forall_mem_cons]
    refine ⟨fun c hc => ?_, fun c hc => ?_, by decide, ?_, ?_, by decide, hbody⟩
    · exact isTextChar_of_isBlankChar (List.all_eq_true.mp List.all_takeWhile c hc)
    · exact forall_of_choices hrun (fun choice hchoice => List.all_eq_true.mp
        (List.all_eq_true.mp hletters choice hchoice)) c hc
    · exact fun d hd => isTextChar_of_isDecimalDigit (hdigits d hd)
    · exact fun c hc => isTextChar_of_isBlankChar (hblanks c hc)

/-- The characters with which a text starts behind its blanks: the first letter of the word for a
reference system or for a kind of geometry. -/
def startsText (c : Char) : Bool :=
  ['S', 's', 'ſ'].contains c || (c.isAlpha && ['P', 'L', 'M', 'G'].contains c.toUpper)

theorem Tree.tokens_head (t : Tree) : ∃ (kind : GeometryKind) (d : Dimensions) (more : List Token),
    t.tokens = .word (kindWord kind ++ d.letters) :: more := by
  cases t with
  | simple heading content =>
    rw [Tree.tokens]
    exact ⟨_, _, _, rfl⟩
  | collection heading children =>
    rw [Tree.tokens]
    exact ⟨_, _, _, rfl⟩

theorem TokenText.startsText {kind : GeometryKind} {d : Dimensions} {run : List Char}
    (h : TokenText (.word (kindWord kind ++ d.letters)) run) :
    ∃ c more, run = c :: more ∧ startsText c = true := by
  obtain ⟨hne, hrun, hword⟩ : run ≠ [] ∧ (∀ c ∈ run, c.isAlpha = true) ∧
      kindWord kind ++ d.letters = (String.ofList run).toUpper := by
    generalize hw : kindWord kind ++ d.letters = w at h
    cases h with
    | word hne hrun => exact ⟨hne, hrun, rfl⟩
  obtain ⟨c, more, rfl⟩ := List.exists_cons_of_ne_nil hne
  have hhead : (kindWord kind ++ d.letters).toList.head? = some c.toUpper := by
    rw [hword, String.toUpper, String.toList_map, String.toList_ofList]
    rfl
  have hfirst : ∃ first, (kindWord kind ++ d.letters).toList.head? = some first ∧
      ['P', 'L', 'M', 'G'].contains first = true := by
    cases kind <;> cases d <;> exact ⟨_, rfl, by decide⟩
  obtain ⟨first, heq, hmem⟩ := hfirst
  rw [hhead, Option.some.injEq] at heq
  exact ⟨c, more, rfl, by simp only [Wkt.startsText, hrun c List.mem_cons_self, heq, hmem,
    Bool.and_self, Bool.or_true]⟩

theorem startsText_of_decode {text : String} {features : List Feature}
    (h : decode text = .ok features) :
    ∃ c more, text.toList.dropWhile Text.isBlankChar = c :: more ∧ startsText c = true := by
  obtain ⟨t, ⟨ts, htokens, hplain⟩, -⟩ := exists_writtenBy_of_decode h
  cases hafter : afterSystem? text.toList with
  | none =>
    rw [body, hafter, Option.getD_none] at htokens
    obtain ⟨kind, d, more, htree⟩ := t.tokens_head
    rw [htree] at hplain
    obtain ⟨⟨start, token⟩, ts, rfl, hword, -⟩ := List.map_eq_cons_iff.mp hplain
    dsimp only at hword
    subst hword
    obtain ⟨run, rest, hrun, hcs⟩ := exists_word_of_tokensFrom htokens
    obtain ⟨c, more, rfl, hc⟩ := hrun.startsText
    exact ⟨c, more ++ rest, hcs, hc⟩
  | some rest =>
    obtain ⟨run, digits, blanks, hrun, -, -, -, hcs⟩ := exists_of_afterSystem? hafter
    cases hrun with
    | cons hc hrun =>
      refine ⟨_, _, hcs, ?_⟩
      rw [startsText, List.contains_iff_mem.mpr hc, Bool.true_or]

end GeoDrafts.Wkt
