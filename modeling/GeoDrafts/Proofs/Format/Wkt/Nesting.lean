import GeoDrafts.Format.Wkt
import GeoDrafts.Proofs.Format.Wkt.Reading
import GeoDrafts.Proofs.Text.Run

/-!
How deep collections nest in well-known text. Collections with content are counted while they are
read, and at most 128 of them may be open. An empty collection is read before that count is
looked at, so one may stand inside 128 others, and the geometry then is one collection too deep.
-/

namespace GeoDrafts

namespace Geometry

mutual

/-- The greatest number of collections inside each other, empty ones included. -/
def nesting : Geometry → Nat
  | .collection children => nestingOfAll children + 1
  | _ => 0

def nestingOfAll : List Geometry → Nat
  | [] => 0
  | g :: gs => max (nesting g) (nestingOfAll gs)

end

theorem nesting_collection_le {children : List Geometry} {n : Nat} :
    (collection children).nesting ≤ n + 1 ↔ ∀ g ∈ children, g.nesting ≤ n := by
  rw [nesting, Nat.add_le_add_iff_right]
  induction children with
  | nil => simp [nestingOfAll]
  | cons g gs ih => rw [nestingOfAll, Nat.max_le, ih, List.forall_mem_cons]

end Geometry

namespace Wkt

namespace Tree

def nesting : Tree → Nat
  | simple _ _ => 0
  | collection _ children => (children.map nesting).foldr max 0 + 1

/-- An empty collection stands inside `n` others. -/
def holdsEmpty : Nat → Tree → Prop
  | _, simple _ _ => False
  | 0, collection _ children => children = []
  | n + 1, collection _ children => ∃ child ∈ children, holdsEmpty n child

theorem nesting_collection_le {heading : Heading} {children : List Tree} {n : Nat} :
    (collection heading children).nesting ≤ n + 1 ↔ ∀ child ∈ children, child.nesting ≤ n := by
  rw [nesting, Nat.add_le_add_iff_right]
  induction children with
  | nil => simp
  | cons child children ih =>
    rw [List.map_cons, List.foldr_cons, Nat.max_le, ih, List.forall_mem_cons]

theorem nesting_of_content {heading : Heading} {c : Content} {g : Geometry}
    (h : (simple heading c).geometry = some g) : g.nesting = 0 := by
  rw [geometry] at h
  cases c with
  | point position =>
    obtain ⟨p, -, rfl⟩ := Option.map_eq_some_iff.mp h
    rfl
  | _ =>
    cases h
    rfl

private theorem nesting_of_no_geometry {t : Tree} (h : t.geometry = none) : t.nesting = 0 := by
  cases t with
  | simple heading c => rw [nesting]
  | collection heading children =>
    rw [geometry] at h
    cases h

private theorem nesting_le_iff (n : Nat) {t : Tree} {g : Geometry} (h : t.geometry = some g) :
    g.nesting ≤ n ↔ t.nesting ≤ n := by
  induction n generalizing t g with
  | zero =>
    cases t with
    | simple heading c => simp [nesting_of_content h, nesting]
    | collection heading children =>
      rw [geometry, Option.some.injEq] at h
      subst h
      simp [Geometry.nesting, nesting]
  | succ n ih =>
    cases t with
    | simple heading c => simp [nesting_of_content h, nesting]
    | collection heading children =>
      rw [geometry, Option.some.injEq] at h
      subst h
      rw [Geometry.nesting_collection_le, nesting_collection_le]
      constructor
      · intro hall child hchild
        cases hchildGeometry : child.geometry with
        | none => simp [nesting_of_no_geometry hchildGeometry]
        | some g =>
          have hg : g ∈ children.filterMap geometry :=
            List.mem_filterMap.mpr ⟨child, hchild, hchildGeometry⟩
          exact (ih hchildGeometry).mp (hall g hg)
      · intro hall g hg
        obtain ⟨child, hchild, hchildGeometry⟩ := List.mem_filterMap.mp hg
        exact (ih hchildGeometry).mpr (hall child hchild)

/-- The geometry nests as deep as the tree: what it lacks are points, which nest nothing. -/
theorem nesting_geometry {t : Tree} {g : Geometry} (h : t.geometry = some g) :
    g.nesting = t.nesting :=
  Nat.le_antisymm ((nesting_le_iff _ h).mpr (Nat.le_refl _))
    ((nesting_le_iff _ h).mp (Nat.le_refl _))

/-- An empty collection adds at most one to the collections that are open around it. -/
theorem nesting_le_succ {t : Tree} {n : Nat} (h : t.depth ≤ n) : t.nesting ≤ n + 1 := by
  induction n generalizing t with
  | zero =>
    cases t with
    | simple heading c => simp [nesting]
    | collection heading children =>
      rw [depth_collection_le] at h
      rw [nesting_collection_le]
      intro child hchild
      exact absurd (h child hchild) (Nat.not_succ_le_zero _)
  | succ n ih =>
    cases t with
    | simple heading c => simp [nesting]
    | collection heading children =>
      rw [depth_collection_le] at h
      rw [nesting_collection_le]
      intro child hchild
      exact ih (Nat.le_of_succ_le_succ (h child hchild))

/-- Only an empty collection can be deeper than the collections that are open around it. -/
theorem nesting_le_iff_not_holdsEmpty {t : Tree} {n : Nat} (h : t.depth ≤ n) :
    t.nesting ≤ n ↔ ¬ t.holdsEmpty n := by
  induction n generalizing t with
  | zero =>
    cases t with
    | simple heading c => simp [nesting, holdsEmpty]
    | collection heading children =>
      have hnone : children = [] := by
        rw [List.eq_nil_iff_forall_not_mem]
        intro child hchild
        exact Nat.not_succ_le_zero _ ((depth_collection_le heading children 0).mp h child hchild)
      simp [nesting, holdsEmpty, hnone]
  | succ n ih =>
    cases t with
    | simple heading c => simp [nesting, holdsEmpty]
    | collection heading children =>
      rw [depth_collection_le] at h
      simp only [nesting_collection_le, holdsEmpty, not_exists, not_and]
      exact forall₂_congr fun child hchild => ih (Nat.le_of_succ_le_succ (h child hchild))

/-- The tokens of a text, without the number of its reference system, are those of a tree. -/
def WrittenBy (t : Tree) (text : String) : Prop :=
  ∃ ts, Wkt.tokens (body text.toList) = .ok ts ∧ plain ts = t.tokens

/-- No text writes two trees. -/
theorem WrittenBy.unique {t t' : Tree} {text : String} (h : t.WrittenBy text)
    (h' : t'.WrittenBy text) : t = t' := by
  obtain ⟨ts, htokens, hplain⟩ := h
  obtain ⟨ts', htokens', hplain'⟩ := h'
  rw [htokens, Except.ok.injEq] at htokens'
  subst htokens'
  exact tokens_injective (hplain.symm.trans hplain')

end Tree

/-! ## Texts -/

/-- The features of a text that writes a tree with at most 128 open collections. -/
theorem decode_of_writtenBy {t : Tree} {text : String} (h : t.WrittenBy text)
    (hdepth : t.depth ≤ maxCollectionDepth) :
    decode text = .ok (t.geometry.toList.map fun g => ⟨some g, []⟩) := by
  obtain ⟨ts, htokens, hplain⟩ := h
  obtain ⟨rest, hread, hrest⟩ := (recognizes_readGeometry maxCollectionDepth).complete ts t []
    hdepth trivial (by rw [hplain, List.append_nil])
  have hphrase : readPhrase ts = .ok t.geometry := by
    rw [List.map_eq_nil_iff.mp hrest] at hread
    simp only [readPhrase, bind, Except.bind, hread]
    rfl
  simp only [decode, bind, Except.bind, htokens, hphrase]
  cases t.geometry <;> rfl

/-- A text that is read writes a tree with at most 128 open collections. -/
theorem exists_writtenBy_of_decode {text : String} {features : List Feature}
    (h : decode text = .ok features) :
    ∃ t : Tree, t.WrittenBy text ∧ t.depth ≤ maxCollectionDepth := by
  obtain ⟨ts, htokens, hphrase⟩ := exists_of_bind h
  cases hread : readGeometry maxCollectionDepth ts with
  | error stop =>
    simp only [readPhrase, bind, Except.bind, hread] at hphrase
    cases hphrase
  | ok reading =>
    obtain ⟨g, rest⟩ := reading
    obtain ⟨t, hdepth, hgeometry, hplain⟩ :=
      (recognizes_readGeometry maxCollectionDepth).sound _ _ _ hread
    cases rest with
    | nil => exact ⟨t, ⟨ts, htokens, by rw [hplain]; exact List.append_nil _⟩, hdepth⟩
    | cons l rest =>
      simp only [readPhrase, bind, Except.bind, hread] at hphrase
      cases hphrase

/-- More than 128 open collections are an error. -/
theorem decode_eq_error {t : Tree} {text : String} (h : t.WrittenBy text)
    (hdepth : maxCollectionDepth < t.depth) : ∃ e, decode text = .error e := by
  cases hdecode : decode text with
  | error e => exact ⟨e, rfl⟩
  | ok features =>
    obtain ⟨t', hwritten, hdepth'⟩ := exists_writtenBy_of_decode hdecode
    rw [h.unique hwritten] at hdepth
    exact absurd hdepth' (Nat.not_le.mpr hdepth)

/-- The geometry of a text is the one of the tree that it writes. -/
theorem geometry_of_decode {t : Tree} {text : String} (h : t.WrittenBy text)
    {features : List Feature} (hdecode : decode text = .ok features) {f : Feature}
    (hf : f ∈ features) {g : Geometry} (hg : f.geometry = some g) : t.geometry = some g := by
  obtain ⟨t', hwritten, hdepth⟩ := exists_writtenBy_of_decode hdecode
  obtain rfl := h.unique hwritten
  rw [decode_of_writtenBy h hdepth, Except.ok.injEq] at hdecode
  subst hdecode
  obtain ⟨g', hg', rfl⟩ := List.mem_map.mp hf
  rw [← hg]
  exact Option.mem_toList.mp hg'

/-! ## Texts of any depth -/

/-- The codes of letters. -/
theorem toNat_of_isAlpha {c : Char} (h : c.isAlpha) :
    65 ≤ c.toNat ∧ c.toNat ≤ 90 ∨ 97 ≤ c.toNat ∧ c.toNat ≤ 122 := by
  have hrange : (decide (c.val ≥ 65 ∧ c.val ≤ 90) ||
      (decide (c.val ≥ 97) && decide (c.val ≤ 122))) = true := h
  simpa [UInt32.le_iff_toNat_le] using hrange

theorem isBlankChar_of_isAlpha {c : Char} (h : c.isAlpha) : Text.isBlankChar c = false := by
  have hcode := toNat_of_isAlpha h
  simp [Text.isBlankChar]
  omega

/-- A word ends where no letter follows. -/
theorem tokensFrom_word {c : Char} {cs rest : List Char} (hc : c.isAlpha)
    (hcs : ∀ d ∈ cs, d.isAlpha) (hrest : ∀ d ∈ rest.head?, d.isAlpha = false)
    (fuel offset : Nat) :
    tokensFrom (fuel + 1) offset (c :: (cs ++ rest)) =
      (tokensFrom fuel (offset + (c :: cs).length) rest).map
        (⟨offset, .word (String.ofList (c :: cs)).toUpper⟩ :: ·) := by
  have htake := Text.takeWhile_run hcs hrest
  have hdrop := Text.dropWhile_run hcs hrest
  have hne : ∀ d : Char, d.isAlpha = false → c ≠ d := by
    rintro d hd rfl
    rw [hd] at hc
    cases hc
  rw [tokensFrom]
  simp only [isBlankChar_of_isAlpha hc, hne '(' rfl, hne ')' rfl, hne ',' rfl, hc, htake, hdrop,
    if_true, if_false, Bool.false_eq_true]
  rfl

theorem tokensFrom_opening (fuel offset : Nat) (cs : List Char) :
    tokensFrom (fuel + 1) offset ('(' :: cs) =
      (tokensFrom fuel (offset + 1) cs).map (⟨offset, .opening⟩ :: ·) := rfl

theorem tokensFrom_closing (fuel offset : Nat) (cs : List Char) :
    tokensFrom (fuel + 1) offset (')' :: cs) =
      (tokensFrom fuel (offset + 1) cs).map (⟨offset, .closing⟩ :: ·) := rfl

def collectionLetters : List Char := "GEOMETRYCOLLECTION".toList

def emptyLetters : List Char := "GEOMETRYCOLLECTION EMPTY".toList

theorem tokensFrom_collection {rest : List Char} (hrest : ∀ d ∈ rest.head?, d.isAlpha = false)
    (fuel offset : Nat) :
    tokensFrom (fuel + 1) offset (collectionLetters ++ rest) =
      (tokensFrom fuel (offset + 18) rest).map (⟨offset, .word "GEOMETRYCOLLECTION"⟩ :: ·) := by
  have hletters : collectionLetters = 'G' :: "EOMETRYCOLLECTION".toList := by decide
  have hall : ∀ d ∈ "EOMETRYCOLLECTION".toList, d.isAlpha := List.all_eq_true.mp (by decide)
  have hupper : (String.ofList ('G' :: "EOMETRYCOLLECTION".toList)).toUpper =
      "GEOMETRYCOLLECTION" := by decide +kernel
  rw [hletters, List.cons_append, tokensFrom_word rfl hall hrest, hupper]
  rfl

theorem tokensFrom_empty {rest : List Char} (hrest : ∀ d ∈ rest.head?, d.isAlpha = false)
    (fuel offset : Nat) :
    tokensFrom (fuel + 3) offset (emptyLetters ++ rest) =
      (tokensFrom fuel (offset + 24) rest).map
        (⟨offset, .word "GEOMETRYCOLLECTION"⟩ :: ⟨offset + 19, .word "EMPTY"⟩ :: ·) := by
  have hletters : emptyLetters = collectionLetters ++ ' ' :: 'E' :: "MPTY".toList := by decide
  have hall : ∀ d ∈ "MPTY".toList, d.isAlpha := List.all_eq_true.mp (by decide)
  have hlength : ('E' :: "MPTY".toList).length = 5 := by decide
  have hupper : (String.ofList ('E' :: "MPTY".toList)).toUpper = "EMPTY" := by decide +kernel
  have hblank : tokensFrom (fuel + 2) (offset + 18) (' ' :: ('E' :: ("MPTY".toList ++ rest))) =
      tokensFrom (fuel + 1) (offset + 19) ('E' :: ("MPTY".toList ++ rest)) := rfl
  rw [hletters, List.append_assoc, List.cons_append, List.cons_append,
    tokensFrom_collection (by simp), hblank, tokensFrom_word rfl hall hrest, hupper, hlength,
    Nat.add_assoc offset 19 5]
  cases tokensFrom fuel (offset + (19 + 5)) rest <;> rfl

/-- An empty collection inside `n` others. -/
def ladder : Nat → Tree
  | 0 => .collection ⟨.unsaid, .unsaid⟩ []
  | n + 1 => .collection ⟨.unsaid, .unsaid⟩ [ladder n]

def ladderText : Nat → List Char
  | 0 => emptyLetters
  | n + 1 => collectionLetters ++ '(' :: (ladderText n ++ [')'])

theorem depth_ladder (n : Nat) : (ladder n).depth = n := by
  induction n with
  | zero => simp [ladder, Tree.depth]
  | succ n ih => simp [ladder, Tree.depth, ih]

theorem nesting_ladder (n : Nat) : (ladder n).nesting = n + 1 := by
  induction n with
  | zero => simp [ladder, Tree.nesting]
  | succ n ih => simp [ladder, Tree.nesting, ih]

theorem length_ladderText_succ (n : Nat) :
    (ladderText (n + 1)).length = (ladderText n).length + 20 := by
  have hlength : collectionLetters.length = 18 := by decide
  simp only [ladderText, List.length_append, List.length_cons, List.length_nil, hlength]
  omega

/-- The tokens of a ladder are read from its text, with fuel to spare. -/
theorem tokensFrom_ladderText (n k offset : Nat) (rest : List Char)
    (hrest : ∀ d ∈ rest.head?, d.isAlpha = false) :
    ∃ fuel finish ts, k ≤ fuel ∧ plain ts = (ladder n).tokens ∧
      tokensFrom ((ladderText n).length + k) offset (ladderText n ++ rest) =
        (tokensFrom fuel finish rest).map (ts ++ ·) := by
  induction n generalizing k offset rest with
  | zero =>
    refine ⟨k + 21, offset + 24, [⟨offset, .word "GEOMETRYCOLLECTION"⟩,
      ⟨offset + 19, .word "EMPTY"⟩], by omega, ?_, ?_⟩
    · rw [ladder, Tree.tokens]
      rfl
    · have hlength : (ladderText 0).length = 24 := by decide
      rw [hlength, Nat.add_comm, ladderText, tokensFrom_empty hrest]
      rfl
  | succ n ih =>
    obtain ⟨fuel, finish, ts, hfuel, hplain, hread⟩ := ih (k + 18) (offset + 19)
      (')' :: rest) (by simp)
    obtain ⟨fuel, rfl⟩ : ∃ m, fuel = m + 1 := ⟨fuel - 1, by omega⟩
    refine ⟨fuel, finish + 1, ⟨offset, .word "GEOMETRYCOLLECTION"⟩ :: ⟨offset + 18, .opening⟩ ::
      (ts ++ [⟨finish, .closing⟩]), by omega, ?_, ?_⟩
    · simp [ladder, Tree.tokens, bodyTokens, enclose, afterCommas, Heading.tokens,
        Dimensions.words, Dimensions.letters, kindWord, hplain]
    · have hlength :
          (ladderText (n + 1)).length + k = (ladderText n).length + (k + 18) + 1 + 1 := by
        rw [length_ladderText_succ]
        omega
      rw [hlength, ladderText, List.append_assoc, List.cons_append, List.append_assoc,
        List.singleton_append, tokensFrom_collection (by simp), tokensFrom_opening, hread,
        tokensFrom_closing]
      cases tokensFrom fuel (finish + 1) rest <;> simp [Except.map]

theorem ladder_writtenBy (n : Nat) : (ladder n).WrittenBy (String.ofList (ladderText n)) := by
  obtain ⟨fuel, finish, ts, -, hplain, hread⟩ :=
    tokensFrom_ladderText n 0 0 [] (fun d hd => by cases hd)
  have hbody : body (ladderText n) = ladderText n := by
    cases n <;> rfl
  have hend : tokensFrom fuel finish [] = .ok [] := by cases fuel <;> rfl
  rw [List.append_nil, Nat.add_zero, hend] at hread
  refine ⟨ts, ?_, hplain⟩
  rw [String.toList_ofList, hbody, tokens, hread]
  simp [Except.map]

/-! ## The limit -/

/-- **Nesting of collections.** The limit holds for a text, in what is read from it and in what is
refused, just if the text has no empty collection inside as many open ones as the limit allows. No
geometry nests more than one collection deeper, and more open collections are always an error. -/
theorem nesting_within_limit_iff (text : String) :
    (((∀ features, decode text = .ok features →
          ∀ f ∈ features, ∀ g, f.geometry = some g → g.nesting ≤ maxCollectionDepth) ∧
        ∀ t : Tree, t.WrittenBy text → maxCollectionDepth < t.nesting →
          ∃ e, decode text = .error e) ↔
      ∀ t : Tree, t.WrittenBy text → t.depth ≤ maxCollectionDepth →
        ¬ t.holdsEmpty maxCollectionDepth) ∧
    (∀ features, decode text = .ok features →
      ∀ f ∈ features, ∀ g, f.geometry = some g → g.nesting ≤ maxCollectionDepth + 1) ∧
    ∀ t : Tree, t.WrittenBy text → maxCollectionDepth < t.depth → ∃ e, decode text = .error e := by
  refine ⟨⟨?_, ?_⟩, ?_, fun t hwritten hdepth => decode_eq_error hwritten hdepth⟩
  · rintro ⟨-, hrefused⟩ t hwritten hdepth hempty
    have hdeep : maxCollectionDepth < t.nesting :=
      Nat.not_le.mp fun h => (Tree.nesting_le_iff_not_holdsEmpty hdepth).mp h hempty
    obtain ⟨e, he⟩ := hrefused t hwritten hdeep
    rw [decode_of_writtenBy hwritten hdepth] at he
    cases he
  · intro hnone
    constructor
    · intro features hdecode f hf g hg
      obtain ⟨t, hwritten, hdepth⟩ := exists_writtenBy_of_decode hdecode
      rw [Tree.nesting_geometry (geometry_of_decode hwritten hdecode hf hg),
        Tree.nesting_le_iff_not_holdsEmpty hdepth]
      exact hnone t hwritten hdepth
    · intro t hwritten hdeep
      cases Nat.lt_or_ge maxCollectionDepth t.depth with
      | inl hdepth => exact decode_eq_error hwritten hdepth
      | inr hdepth =>
        have hwithin := (Tree.nesting_le_iff_not_holdsEmpty hdepth).mpr (hnone t hwritten hdepth)
        exact absurd hdeep (Nat.not_lt.mpr hwithin)
  · intro features hdecode f hf g hg
    obtain ⟨t, hwritten, hdepth⟩ := exists_writtenBy_of_decode hdecode
    rw [Tree.nesting_geometry (geometry_of_decode hwritten hdecode hf hg)]
    exact Tree.nesting_le_succ hdepth

/-- At the limit a geometry is read that nests one collection too deep. -/
theorem decode_ladder_too_deep :
    ∃ g, decode (String.ofList (ladderText 128)) = .ok [⟨some g, []⟩] ∧
      ¬ g.nesting ≤ maxCollectionDepth := by
  have hwritten := ladder_writtenBy 128
  have hread := decode_of_writtenBy hwritten (by rw [depth_ladder]; decide)
  obtain ⟨g, hgeometry⟩ : ∃ g, (ladder 128).geometry = some g := ⟨_, by rw [ladder, Tree.geometry]⟩
  rw [hgeometry] at hread
  refine ⟨g, hread, ?_⟩
  rw [Tree.nesting_geometry hgeometry, nesting_ladder]
  decide

end Wkt

end GeoDrafts
