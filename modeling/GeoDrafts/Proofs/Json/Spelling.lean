import GeoDrafts.Json.Reader
import GeoDrafts.Proofs.Draft.Index
import GeoDrafts.Proofs.Json.Scaling
import GeoDrafts.Proofs.Text.Run

/-!
The texts of a decimal literal. A literal is written with or without a sign, a point and an
exponent. As a number by itself every such text is read; a JSON text has a stricter grammar, but it
is not read as another literal.
-/

namespace GeoDrafts.Json

open Decimal

/-! ## The grammar -/

/-- The characters of a sign; a plus sign may be left out. -/
inductive WritesSign : Bool → List Char → Prop where
  | none : WritesSign false []
  | plus : WritesSign false ['+']
  | minus : WritesSign true ['-']

/-- The characters of a fraction; without digits there need not be a point. -/
inductive WritesFraction : List Char → List Char → Prop where
  | none : WritesFraction [] []
  | point (digits : List Char) : WritesFraction digits ('.' :: digits)

inductive WritesExponent : Option (Bool × List Char) → List Char → Prop where
  | none : WritesExponent none []
  | mark {c : Char} {negative : Bool} {sign digits : List Char} (hc : c = 'e' ∨ c = 'E')
      (hsign : WritesSign negative sign) (hne : digits ≠ [])
      (hdigits : ∀ d ∈ digits, d.isDigit = true) :
    WritesExponent (some (negative, digits)) (c :: (sign ++ digits))

/-- The characters of a literal. There is a digit before the point or behind it. -/
inductive Literal.WrittenBy (l : Literal) : List Char → Prop where
  | parts {sign fraction exponent : List Char} (hsign : WritesSign l.negative sign)
      (hfraction : WritesFraction l.fraction fraction)
      (hexponent : WritesExponent l.exponent exponent) (hne : l.whole ++ l.fraction ≠ [])
      (hdigits : ∀ d ∈ l.whole ++ l.fraction, d.isDigit = true) :
    l.WrittenBy (sign ++ (l.whole ++ (fraction ++ exponent)))

/-! ## Splitting the parts off -/

theorem spanDigits_append {digits rest : List Char} (hdigits : ∀ d ∈ digits, d.isDigit = true)
    (hrest : ∀ c ∈ rest.head?, c.isDigit = false) :
    spanDigits (digits ++ rest) = (digits, rest) :=
  Text.span_run hdigits hrest

theorem spanDigits_digits {digits : List Char} (hdigits : ∀ d ∈ digits, d.isDigit = true) :
    spanDigits digits = (digits, []) := by
  have hnone : ∀ c ∈ ([] : List Char).head?, c.isDigit = false := by simp
  simpa using spanDigits_append hdigits hnone

theorem splitSign_append {negative : Bool} {sign rest : List Char} (h : WritesSign negative sign)
    (hrest : ∀ c ∈ rest.head?, c ≠ '-' ∧ c ≠ '+') :
    splitSign (sign ++ rest) = (negative, rest) := by
  cases h with
  | plus => rfl
  | minus => rfl
  | none =>
    cases rest with
    | nil => rfl
    | cons c rest =>
      obtain ⟨hminus, hplus⟩ := hrest c rfl
      unfold splitSign
      split
      · rename_i heq
        cases heq
        exact absurd rfl hminus
      · rename_i heq
        cases heq
        exact absurd rfl hplus
      · rfl

theorem not_sign_of_isDigit {c : Char} (h : c.isDigit = true) : c ≠ '-' ∧ c ≠ '+' := by
  constructor <;> rintro rfl <;> exact absurd h (by decide)

theorem head_of_digits {digits : List Char} (hdigits : ∀ d ∈ digits, d.isDigit = true) :
    ∀ c ∈ digits.head?, c ≠ '-' ∧ c ≠ '+' :=
  fun c hc => not_sign_of_isDigit (hdigits c (List.mem_of_mem_head? hc))

section
variable {exponent : Option (Bool × List Char)} {text : List Char}

theorem WritesFraction.cases {fraction text : List Char} (h : WritesFraction fraction text) :
    text = [] ∧ fraction = [] ∨ text = '.' :: fraction := by
  cases h with
  | none => exact .inl ⟨rfl, rfl⟩
  | point => exact .inr rfl

theorem WritesExponent.cases (h : WritesExponent exponent text) :
    text = [] ∨ ∃ rest, text = 'e' :: rest ∨ text = 'E' :: rest := by
  cases h with
  | none => exact .inl rfl
  | mark hc => rcases hc with rfl | rfl <;> simp

theorem exponent_eq_none (h : WritesExponent exponent []) : exponent = none := by
  cases h
  rfl

theorem WritesExponent.head (h : WritesExponent exponent text) :
    ∀ c ∈ text.head?, c = 'e' ∨ c = 'E' := by
  cases h with
  | none => simp
  | mark hc => simpa using hc

theorem readExponent?_of_writes {l : Literal} (h : WritesExponent l.exponent text) :
    readExponent? text = some l.writtenExponent := by
  unfold Literal.writtenExponent
  cases heq : l.exponent with
  | none =>
    rw [heq] at h
    cases h
    rfl
  | some part =>
    rw [heq] at h
    cases h with
    | mark hc hsign hne hdigits =>
      have hall := List.all_eq_true.mpr hdigits
      rw [readExponent?, if_pos hc, splitSign_append hsign (head_of_digits hdigits)]
      dsimp only
      rw [if_pos ⟨hne, hall⟩]

theorem readExponentPart?_of_writes (h : WritesExponent exponent text) :
    readExponentPart? text = some (exponent, []) := by
  cases h with
  | none => rfl
  | mark hc hsign hne hdigits =>
    rw [readExponentPart?, if_pos hc, splitSign_append hsign (head_of_digits hdigits)]
    dsimp only
    rw [spanDigits_digits hdigits]
    dsimp only
    rw [if_neg hne]

end

/-- The characters of a literal behind its sign start with a digit or a point. -/
theorem head_of_body {whole fraction text : List Char} (h : WritesFraction fraction text)
    (hne : whole ++ fraction ≠ []) (hdigits : ∀ d ∈ whole ++ fraction, d.isDigit = true)
    (rest : List Char) :
    ∃ c more, whole ++ (text ++ rest) = c :: more ∧ (c.isDigit = true ∨ c = '.') := by
  cases whole with
  | cons c whole => exact ⟨c, _, rfl, .inl (hdigits c (by simp))⟩
  | nil =>
    cases h with
    | none => exact absurd rfl hne
    | point => exact ⟨'.', _, rfl, .inr rfl⟩

/-- The whole digits end at the point, at the mark of the exponent or with the literal. -/
theorem spanDigits_whole {whole fraction text rest : List Char} (h : WritesFraction fraction text)
    (hdigits : ∀ d ∈ whole, d.isDigit = true) (hrest : ∀ c ∈ rest.head?, c = 'e' ∨ c = 'E') :
    spanDigits (whole ++ (text ++ rest)) = (whole, text ++ rest) := by
  refine spanDigits_append hdigits fun c hc => ?_
  cases h with
  | none => rcases hrest c hc with rfl | rfl <;> decide
  | point =>
    obtain rfl : '.' = c := by simpa using hc
    decide

theorem spanDigits_fraction {fraction rest : List Char} (hdigits : ∀ d ∈ fraction, d.isDigit = true)
    (hrest : ∀ c ∈ rest.head?, c = 'e' ∨ c = 'E') :
    spanDigits (fraction ++ rest) = (fraction, rest) := by
  refine spanDigits_append hdigits fun c hc => ?_
  rcases hrest c hc with rfl | rfl <;> decide

/-! ## Literals by themselves -/

/-- A number that starts with a digit or a point is none of the words. -/
theorem toLower_of_head {c : Char} (h : c.isDigit = true ∨ c = '.') :
    c.toLower ≠ 'i' ∧ c.toLower ≠ 'n' := by
  rcases h with h | rfl
  · have hn : 48 ≤ c.toNat ∧ c.toNat ≤ 57 := by
      simpa [Char.isDigit, UInt32.le_iff_toNat_le] using h
    have hupper : ¬ c.isUpper = true := by
      simp [Char.isUpper, UInt32.le_iff_toNat_le]
      omega
    rw [Char.toLower_eq_of_not_isUpper hupper]
    constructor <;> rintro rfl <;> exact absurd h (by decide)
  · decide

section
variable {l : Literal} {cs : List Char}

theorem readSize?_of_parts {fraction exponent : List Char} (hf : WritesFraction l.fraction fraction)
    (he : WritesExponent l.exponent exponent) (hne : l.whole ++ l.fraction ≠ [])
    (hdigits : ∀ d ∈ l.whole ++ l.fraction, d.isDigit = true) :
    readSize? (l.whole ++ (fraction ++ exponent)) = some (nearest l.digits l.power) := by
  obtain ⟨c, more, hbody, hc⟩ := head_of_body hf hne hdigits exponent
  have hword : ∀ d ds, d = 'i' ∨ d = 'n' →
      (l.whole ++ (fraction ++ exponent)).map Char.toLower ≠ d :: ds := by
    intro d ds hd heq
    rw [hbody, List.map_cons, List.cons.injEq] at heq
    rcases hd with rfl | rfl
    · exact (toLower_of_head hc).1 heq.1
    · exact (toLower_of_head hc).2 heq.1
  have hwhole : ∀ d ∈ l.whole, d.isDigit = true := fun d hd =>
    hdigits d (List.mem_append_left _ hd)
  have hfraction : ∀ d ∈ l.fraction, d.isDigit = true := fun d hd =>
    hdigits d (List.mem_append_right _ hd)
  unfold readSize?
  dsimp only
  rw [if_neg, if_neg, spanDigits_whole hf hwhole he.head]
  · have hresult : (if l.whole = [] ∧ l.fraction = [] then none
        else (readExponent? exponent).map fun e =>
          nearest (digitsValue (l.whole ++ l.fraction)) (e - l.fraction.length)) =
        some (nearest l.digits l.power) := by
      rw [if_neg (fun h => hne (by rw [h.1, h.2]; rfl)), readExponent?_of_writes he]
      rfl
    rcases hf.cases with ⟨rfl, hnone⟩ | rfl
    · rw [List.nil_append, ← hresult, hnone]
      rcases he.cases with rfl | ⟨rest, rfl | rfl⟩ <;> rfl
    · simp only [List.cons_append, spanDigits_fraction hfraction he.head]
      exact hresult
  · exact hword 'n' _ (.inr rfl)
  · rintro (heq | heq)
    · exact hword 'i' _ (.inl rfl) heq
    · exact hword 'i' _ (.inl rfl) heq

/-- **A literal by itself** is read as its digits and its power of ten say. -/
theorem readFloat?_of_writtenBy (h : l.WrittenBy cs) : readFloat? cs =
    some (if l.negative then -nearest l.digits l.power else nearest l.digits l.power) := by
  cases h with
  | parts hsign hf he hne hdigits =>
    obtain ⟨c, more, hbody, hc⟩ := head_of_body hf hne hdigits _
    unfold readFloat?
    rw [splitSign_append hsign]
    · dsimp only
      rw [readSize?_of_parts hf he hne hdigits]
      rfl
    · intro d hd
      rw [hbody] at hd
      obtain rfl : c = d := by simpa using hd
      rcases hc with hc | rfl
      · exact not_sign_of_isDigit hc
      · decide

/-- Digits by themselves, with or without a plus sign. -/
theorem plain_of_writtenBy (h : l.WrittenBy cs) (hcs : ∀ c ∈ cs, c.isDigit = true ∨ c = '+') :
    (cs = l.whole ∨ cs = '+' :: l.whole) ∧ l.whole ≠ [] ∧ (∀ d ∈ l.whole, d.isDigit = true) ∧
      l.value = digitsValue l.whole ∧ l.size = digitsValue l.whole := by
  cases h with
  | @parts sign fraction exponent hsign hf he hne hdigits =>
    have hfraction : fraction = [] ∧ l.fraction = [] := by
      refine hf.cases.resolve_right ?_
      rintro rfl
      exact absurd (hcs '.' (by simp)) (by decide)
    have hexponent : exponent = [] := by
      refine he.cases.resolve_right ?_
      rintro ⟨rest, rfl | rfl⟩
      · exact absurd (hcs 'e' (by simp)) (by decide)
      · exact absurd (hcs 'E' (by simp)) (by decide)
    have hnone : l.exponent = none := exponent_eq_none (hexponent ▸ he)
    have hsize : l.size = digitsValue l.whole := by
      rw [Literal.size, Literal.digits, Literal.power, Literal.writtenExponent, hnone, hfraction.2]
      simp
    rw [hfraction.2, List.append_nil] at hne hdigits
    rw [hfraction.1, hexponent, List.append_nil, List.append_nil] at hcs ⊢
    rw [Literal.value, hsize]
    generalize l.negative = negative at hsign
    cases hsign with
    | none => exact ⟨.inl rfl, hne, hdigits, rfl, rfl⟩
    | plus => exact ⟨.inr rfl, hne, hdigits, rfl, rfl⟩
    | minus => exact absurd (hcs '-' (by simp)) (by decide)

theorem readNatural?_of_plain {digits : List Char} (hcs : cs = digits ∨ cs = '+' :: digits)
    (hne : digits ≠ []) (hdigits : ∀ d ∈ digits, d.isDigit = true) :
    readNatural? cs =
      if digitsValue digits < 2 ^ 64 then some (digitsValue digits) else none := by
  have hall := List.all_eq_true.mpr hdigits
  have hif : (if digits ≠ [] ∧ digits.all Char.isDigit ∧ digitsValue digits < Nat.pow 2 64 then
      some (digitsValue digits) else none) =
        if digitsValue digits < 2 ^ 64 then some (digitsValue digits) else none := by
    simp only [hne, hall, ne_eq, not_false_eq_true, true_and, Nat.pow_eq]
  rcases hcs with rfl | rfl
  · obtain ⟨c, more, rfl⟩ := List.exists_cons_of_ne_nil hne
    have hplus : c ≠ '+' := (not_sign_of_isDigit (hdigits c (by simp))).2
    rw [← hif, readNatural?]
    exact fun rest heq => hplus (List.cons.inj heq).1
  · exact hif

theorem plain_of_readNatural? {n : ℕ} (h : readNatural? cs = some n) :
    ∀ c ∈ cs, c.isDigit = true ∨ c = '+' := by
  unfold readNatural? at h
  dsimp only at h
  split at h
  all_goals
    obtain ⟨⟨-, hall, -⟩, -⟩ := Option.ite_none_right_eq_some.mp h
    rw [List.all_eq_true] at hall
  · rw [List.forall_mem_cons]
    exact ⟨.inr rfl, fun c hc => .inl (hall c hc)⟩
  · exact fun c hc => .inl (hall c hc)

/-- A text of digits by themselves is exact. -/
theorem indexOfText?_of_plain {s : String} (h : l.WrittenBy (Text.trimChars s.toList))
    (hplain : ∀ c ∈ Text.trimChars s.toList, c.isDigit = true ∨ c = '+') {n : ℕ} :
    indexOfText? s = some n ↔ l.value = n ∧ n < 2 ^ 64 := by
  obtain ⟨hcs, hne, hdigits, hvalue, hsize⟩ := plain_of_writtenBy h hplain
  rw [indexOfText?]
  rcases Nat.lt_or_ge (digitsValue l.whole) (2 ^ 64) with hlt | hge
  · rw [readNatural?_of_plain hcs hne hdigits, if_pos hlt, hvalue]
    dsimp only
    rw [Option.some.injEq, Nat.cast_inj]
    constructor
    · rintro rfl
      exact ⟨rfl, hlt⟩
    · exact And.left
  · have hlarge : Survives l.size := .inr (.inl (by rw [hsize]; exact_mod_cast hge))
    rw [readNatural?_of_plain hcs hne hdigits, if_neg hge.not_gt, readFloat?_of_writtenBy h]
    exact naturalOfFloat?_signed_iff l.negative l.size_nonneg (reads_nearest _ _) hlarge

/-- **The index of a text.** Digits by themselves are exact; any other literal is read as a double,
which is exact where rounding changes nothing. -/
theorem indexOfText?_of_writtenBy {s : String} (h : l.WrittenBy (Text.trimChars s.toList))
    (hl : (∀ c ∈ Text.trimChars s.toList, c.isDigit = true ∨ c = '+') ∨ Survives l.size) {n : ℕ} :
    indexOfText? s = some n ↔ l.value = n ∧ n < 2 ^ 64 := by
  by_cases hplain : ∀ c ∈ Text.trimChars s.toList, c.isDigit = true ∨ c = '+'
  · exact indexOfText?_of_plain h hplain
  · have hnone : readNatural? (Text.trimChars s.toList) = none :=
      Option.eq_none_iff_forall_ne_some.mpr fun n hn => hplain (plain_of_readNatural? hn)
    rw [indexOfText?, hnone, readFloat?_of_writtenBy h]
    exact naturalOfFloat?_signed_iff l.negative l.size_nonneg (reads_nearest _ _)
      (hl.resolve_left hplain)

/-- The index of any other text is off by a rounding only. -/
theorem error_of_indexOfText? {s : String} (h : l.WrittenBy (Text.trimChars s.toList)) {n : ℕ}
    (hn : indexOfText? s = some n) :
    n = 0 ∧ |l.value| ≤ 2 ^ (-1075 : ℤ) ∨ |l.value - n| * 2 ^ 53 ≤ n := by
  by_cases hplain : ∀ c ∈ Text.trimChars s.toList, c.isDigit = true ∨ c = '+'
  · obtain ⟨hvalue, -⟩ := (indexOfText?_of_plain h hplain).mp hn
    rw [hvalue, sub_self, abs_zero, zero_mul]
    exact .inr (Nat.cast_nonneg n)
  · have hnone : readNatural? (Text.trimChars s.toList) = none :=
      Option.eq_none_iff_forall_ne_some.mpr fun n hn => hplain (plain_of_readNatural? hn)
    rw [indexOfText?, hnone, readFloat?_of_writtenBy h] at hn
    exact error_of_naturalOfFloat?_signed (nears_nearest _ _) hn

/-! ## Literals in a document -/

theorem readFraction?_of_writes {fraction text rest : List Char} (h : WritesFraction fraction text)
    (hdigits : ∀ d ∈ fraction, d.isDigit = true)
    (hrest : rest = [] ∨ ∃ more, rest = 'e' :: more ∨ rest = 'E' :: more) :
    readFraction? (text ++ rest) = none ∨ readFraction? (text ++ rest) = some (fraction, rest) := by
  rcases h.cases with ⟨rfl, rfl⟩ | rfl
  · refine .inr ?_
    rcases hrest with rfl | ⟨more, rfl | rfl⟩ <;> rfl
  · have hhead : ∀ c ∈ rest.head?, c = 'e' ∨ c = 'E' := by
      rcases hrest with rfl | ⟨more, rfl | rfl⟩ <;> simp
    simp only [List.cons_append, readFraction?, spanDigits_fraction hdigits hhead]
    split
    · exact .inl rfl
    · exact .inr rfl

theorem readUnsigned?_of_parts {fraction exponent : List Char}
    (hf : WritesFraction l.fraction fraction) (he : WritesExponent l.exponent exponent)
    (hdigits : ∀ d ∈ l.whole ++ l.fraction, d.isDigit = true) :
    readUnsigned? l.negative (l.whole ++ (fraction ++ exponent)) = none ∨
      readUnsigned? l.negative (l.whole ++ (fraction ++ exponent)) = some (l, []) := by
  have hwhole : ∀ d ∈ l.whole, d.isDigit = true := fun d hd =>
    hdigits d (List.mem_append_left _ hd)
  have hfraction : ∀ d ∈ l.fraction, d.isDigit = true := fun d hd =>
    hdigits d (List.mem_append_right _ hd)
  rw [readUnsigned?, spanDigits_whole hf hwhole he.head]
  dsimp only
  split
  · exact .inl rfl
  · rcases readFraction?_of_writes hf hfraction he.cases with hread | hread
    · rw [hread]
      exact .inl rfl
    · rw [hread]
      refine .inr ?_
      rw [Option.bind_eq_bind, Option.bind_some, readExponentPart?_of_writes he]
      rfl

/-- A text of a literal that is read in a document is read as that literal. -/
theorem readLiteral?_of_writtenBy (h : l.WrittenBy cs) :
    readLiteral? cs = none ∨ readLiteral? cs = some (l, []) := by
  cases h with
  | @parts sign fraction exponent hsign hf he hne hdigits =>
    have hread := readUnsigned?_of_parts hf he hdigits
    obtain ⟨c, more, hbody, hc⟩ := head_of_body hf hne hdigits exponent
    rw [hbody] at hread ⊢
    generalize l.negative = negative at hsign hread
    cases hsign with
    | none =>
      have hminus : c ≠ '-' := by
        rintro rfl
        exact absurd hc (by decide)
      rwa [List.nil_append, readLiteral?_of_ne hminus]
    | plus => exact .inl (by rw [List.singleton_append, readLiteral?_of_ne (by decide)]; rfl)
    | minus => rwa [List.singleton_append, readLiteral?_minus]

end

theorem readDocument?_literal {c : Char} {cs : List Char}
    (hc : c.isDigit = true ∨ c = '-' ∨ c = '+' ∨ c = '.') (fuel : ℕ) :
    readDocument? (fuel + 1) (c :: cs) =
      (readLiteral? (c :: cs)).map fun (l, rest) => (.number l.number?, rest) := by
  have hspace : skipSpace (c :: cs) = c :: cs := by
    have hc' : isSpace c = false := by
      unfold isSpace
      rcases hc with hc | rfl | rfl | rfl
      · have hne : ∀ d, d.isDigit = false → (c == d) = false := by
          intro d hd
          rw [beq_eq_false_iff_ne]
          rintro rfl
          rw [hc] at hd
          cases hd
        rw [hne ' ' rfl, hne '\t' rfl, hne '\n' rfl, hne '\r' rfl]
        rfl
      all_goals decide
    rw [skipSpace, List.dropWhile_cons_of_neg (by simp [hc'])]
  unfold readDocument?
  rw [hspace]
  split
  case h_7 => rfl
  all_goals
    rename_i heq
    cases heq
    exact absurd hc (by decide)

section
variable {l : Literal} {cs : List Char}

/-- The characters that a literal starts with. -/
theorem Literal.WrittenBy.head (h : l.WrittenBy cs) :
    ∃ c more, cs = c :: more ∧ (c.isDigit = true ∨ c = '-' ∨ c = '+' ∨ c = '.') := by
  cases h with
  | @parts sign fraction exponent hsign hf he hne hdigits =>
    obtain ⟨c, more, hbody, hc⟩ := head_of_body hf hne hdigits exponent
    rw [hbody]
    generalize l.negative = negative at hsign
    cases hsign with
    | none => exact ⟨c, more, rfl, hc.imp_right fun hpoint => .inr (.inr hpoint)⟩
    | plus => exact ⟨'+', c :: more, rfl, by decide⟩
    | minus => exact ⟨'-', c :: more, rfl, by decide⟩

/-- A document that is a literal is the number of the literal, if there is one. -/
theorem read?_of_readLiteral? {c : Char} {more : List Char}
    (hc : c.isDigit = true ∨ c = '-' ∨ c = '+' ∨ c = '.')
    (h : readLiteral? (c :: more) = some (l, [])) :
    read? (String.ofList (c :: more)) = l.number?.map .number := by
  rw [read?, Document.read?, String.toList_ofList, readDocument?_literal hc, h,
    Option.map_some]
  dsimp only
  rw [if_pos (show skipSpace [] = [] from rfl), Option.bind_some, Document.value?]

/-- **A document that a literal writes** is the number of that literal. -/
theorem number?_of_read? (h : l.WrittenBy cs) {v : Json} (hv : read? (String.ofList cs) = some v) :
    ∃ x, l.number? = some x ∧ v = .number x := by
  obtain ⟨c, more, rfl, hc⟩ := h.head
  rcases readLiteral?_of_writtenBy h with hnone | hsome
  · rw [read?, Document.read?, String.toList_ofList, readDocument?_literal hc, hnone] at hv
    cases hv
  · rw [read?_of_readLiteral? hc hsome, Option.map_eq_some_iff] at hv
    obtain ⟨x, hx, rfl⟩ := hv
    exact ⟨x, hx, rfl⟩

/-- **The index of a number in a document.** A short literal is exact where rounding changes
nothing. -/
theorem index?_of_read? (h : l.WrittenBy cs) (hl : l.IsShort) (hs : Survives l.size) {v : Json}
    (hv : read? (String.ofList cs) = some v) {n : ℕ} :
    v.index? = some n ↔ l.value = n ∧ n < 2 ^ 64 := by
  obtain ⟨x, hx, rfl⟩ := number?_of_read? h hv
  exact Literal.index?_of_number? hl hs hx

/-- The index of any number in a document is off by some roundings only, unless the exponent is
below all that is read. -/
theorem error_of_read? (h : l.WrittenBy cs) {v : Json} (hv : read? (String.ofList cs) = some v)
    {n : ℕ} (hn : v.index? = some n) :
    n = 0 ∧ (|l.value| ≤ 2 ^ (-900 : ℤ) ∨ l.writtenExponent ≤ -2 ^ 31) ∨
      |l.value - n| * 2 ^ 50 ≤ n := by
  obtain ⟨x, hx, rfl⟩ := number?_of_read? h hv
  cases h with
  | parts _ _ _ _ hdigits => exact Literal.error_of_number? hdigits hx hn

end

/-! ## Whole numbers -/

/-- The decimal text of a number has no leading zero. -/
theorem head_toDigits {n : ℕ} (hn : 0 < n) : (Nat.toDigits 10 n).head? ≠ some '0' := by
  induction n using Nat.strong_induction_on with
  | h n ih =>
    rcases Nat.lt_or_ge n 10 with hlt | hge
    · rw [Nat.toDigits_of_lt_base hlt]
      interval_cases n <;> decide
    · rw [Nat.toDigits_of_base_le (by decide) hge,
        List.head?_append_of_ne_nil _ Nat.toDigits_ne_nil]
      exact ih (n / 10) (Nat.div_lt_self hn (by decide)) (Nat.div_pos hge (by decide))

def Literal.ofNat (n : ℕ) : Literal := ⟨false, Nat.toDigits 10 n, [], none⟩

theorem readLiteral?_toDigits (n : ℕ) :
    readLiteral? (Nat.toDigits 10 n) = some (Literal.ofNat n, []) := by
  have hdigits := all_isDigit_toDigits n
  have hzero : ¬ ((Nat.toDigits 10 n).head? = some '0' ∧ (Nat.toDigits 10 n).length ≠ 1) := by
    rintro ⟨hhead, hlength⟩
    rcases Nat.eq_zero_or_pos n with rfl | hpos
    · exact hlength (by rw [Nat.toDigits_zero]; rfl)
    · exact head_toDigits hpos hhead
  have hread : readUnsigned? false (Nat.toDigits 10 n) = some (Literal.ofNat n, []) := by
    rw [readUnsigned?, spanDigits_digits hdigits]
    dsimp only
    rw [if_neg (not_or.mpr ⟨Nat.toDigits_ne_nil, hzero⟩)]
    rfl
  obtain ⟨c, more, hcs⟩ := List.exists_cons_of_ne_nil (Nat.toDigits_ne_nil (b := 10) (n := n))
  rw [hcs] at hdigits hread ⊢
  rw [readLiteral?_of_ne (not_sign_of_isDigit (hdigits c (by simp))).1, hread]

/-- The decimal text of a number of 64 bits is read as that number. -/
theorem read?_toString {n : ℕ} (hn : n < 2 ^ 64) :
    read? (toString n) = some (.number (.whole n)) := by
  have hdigits := all_isDigit_toDigits n
  have hread := readLiteral?_toDigits n
  have hnumber : (Literal.ofNat n).number? = some (.whole n) := by
    have hmax : maxSignificand = 2 ^ 64 - 1 := rfl
    have hwhole : (Literal.ofNat n).whole? = some (n : ℤ) := by
      rw [Literal.whole?, Literal.ofNat]
      dsimp only
      rw [if_pos ⟨rfl, rfl⟩, if_neg Bool.false_ne_true, digitsValue_toDigits, if_pos (by omega)]
    rw [Literal.number?, hwhole]
  obtain ⟨c, more, hcs⟩ := List.exists_cons_of_ne_nil (Nat.toDigits_ne_nil (b := 10) (n := n))
  rw [Nat.toString_eq_ofList_toDigits, hcs]
  rw [hcs] at hdigits hread
  rw [read?_of_readLiteral? (.inl (hdigits c (by simp))) hread, hnumber]
  rfl

end GeoDrafts.Json
