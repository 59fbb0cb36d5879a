import GeoDrafts.Json.Reader
import GeoDrafts.Proofs.Decimal.Finite

/-!
The numbers of a JSON value that was read are finite. A whole number has at most 64 bits, and a
literal that is too large for a double is no number of any value.
-/

namespace GeoDrafts.Json

open Decimal

inductive IsFinite : Json → Prop where
  | null : IsFinite .null
  | bool (b : Bool) : IsFinite (.bool b)
  | number {n : Number} (h : n.toFloat.isFinite = true) : IsFinite (.number n)
  | text (s : String) : IsFinite (.text s)
  | array {items : List Json} (h : ∀ v ∈ items, IsFinite v) : IsFinite (.array items)
  | object {members : List (String × Json)} (h : ∀ m ∈ members, IsFinite m.2) :
    IsFinite (.object members)

inductive Document.IsFinite : Document → Prop where
  | null : IsFinite .null
  | bool (b : Bool) : IsFinite (.bool b)
  | number {n : Option Number} (h : ∀ x, n = some x → x.toFloat.isFinite = true) :
    IsFinite (.number n)
  | text (s : Option String) : IsFinite (.text s)
  | array {items : List Document} (h : ∀ d ∈ items, IsFinite d) : IsFinite (.array items)
  | object {members : List (Option String × Document)} (h : ∀ m ∈ members, IsFinite m.2) :
    IsFinite (.object members)

/-! ## Literals -/

theorem isFinite_of_scaled? {s : Nat} {e : Int} {x : Float} (h : scaled? s e = some x) :
    x.isFinite = true := by
  unfold scaled? at h
  dsimp only at h
  rw [Option.ite_none_right_eq_some, Option.some.injEq] at h
  obtain ⟨hfinite, rfl⟩ := h
  exact hfinite

theorem Literal.isFinite_of_size? {l : Literal} {x : Float} (h : l.size? = some x) :
    x.isFinite = true := by
  have hzero : (0.0 : Float).isFinite = true := by decide +kernel
  unfold Literal.size? at h
  dsimp only at h
  split at h
  · split at h
    · cases h
      exact hzero
    · cases h
  · split at h
    · cases h
      exact hzero
    · exact isFinite_of_scaled? h

theorem Literal.natAbs_of_whole? {l : Literal} {n : Int} (h : l.whole? = some n) :
    n.natAbs ≤ 2 ^ 64 := by
  have hmax : maxSignificand = 2 ^ 64 - 1 := rfl
  have hmin : Nat.pow 2 63 = 2 ^ 63 := rfl
  unfold Literal.whole? at h
  dsimp only at h
  split at h
  · split at h
    · split at h
      · cases h
        omega
      · cases h
    · split at h
      · cases h
        omega
      · cases h
  · cases h

theorem Literal.isFinite_of_number? {l : Literal} {n : Number} (h : l.number? = some n) :
    n.toFloat.isFinite = true := by
  unfold Literal.number? at h
  split at h
  · rename_i whole hwhole
    cases h
    exact isFinite_ofInt (Literal.natAbs_of_whole? hwhole)
  · obtain ⟨x, hx, rfl⟩ := Option.map_eq_some_iff.mp h
    have hfinite := Literal.isFinite_of_size? hx
    rw [Number.toFloat]
    split
    · exact isFinite_neg hfinite
    · exact hfinite

/-! ## Reading -/

mutual

theorem isFinite_of_readDocument? {fuel : Nat} {cs rest : List Char} {d : Document}
    (h : readDocument? fuel cs = some (d, rest)) : d.IsFinite := by
  cases fuel with
  | zero => cases h
  | succ fuel =>
    unfold readDocument? at h
    split at h
    · split at h
      · cases h
        exact .object (by simp)
      · exact isFinite_of_readMembers? (by simp) h
    · split at h
      · cases h
        exact .array (by simp)
      · exact isFinite_of_readItems? (by simp) h
    · obtain ⟨text, -, heq⟩ := Option.map_eq_some_iff.mp h
      cases heq
      exact .text _
    · cases h
      exact .null
    · cases h
      exact .bool _
    · cases h
      exact .bool _
    · obtain ⟨literal, -, heq⟩ := Option.map_eq_some_iff.mp h
      cases heq
      exact .number fun x hx => Literal.isFinite_of_number? hx

theorem isFinite_of_readItems? {fuel : Nat} {read : List Document} {cs rest : List Char}
    {d : Document} (hread : ∀ item ∈ read, item.IsFinite)
    (h : readItems? fuel read cs = some (d, rest)) : d.IsFinite := by
  cases fuel with
  | zero => cases h
  | succ fuel =>
    unfold readItems? at h
    split at h
    · cases h
    · rename_i item after hitem
      have hread' : ∀ d ∈ item :: read, d.IsFinite :=
        List.forall_mem_cons.mpr ⟨isFinite_of_readDocument? hitem, hread⟩
      split at h
      · exact isFinite_of_readItems? hread' h
      · cases h
        exact .array fun d hd => hread' d (List.mem_reverse.mp hd)
      · cases h

theorem isFinite_of_readMembers? {fuel : Nat} {read : List (Option String × Document)}
    {cs rest : List Char} {d : Document} (hread : ∀ m ∈ read, m.2.IsFinite)
    (h : readMembers? fuel read cs = some (d, rest)) : d.IsFinite := by
  cases fuel with
  | zero => cases h
  | succ fuel =>
    unfold readMembers? at h
    split at h
    · split at h
      · cases h
      · split at h
        · split at h
          · cases h
          · rename_i key _ _ _ _ _ _ value _ hvalue
            have hread' : ∀ m ∈ (key, value) :: read, m.2.IsFinite :=
              List.forall_mem_cons.mpr ⟨isFinite_of_readDocument? hvalue, hread⟩
            split at h
            · exact isFinite_of_readMembers? hread' h
            · cases h
              exact .object fun m hm => hread' m (List.mem_reverse.mp hm)
            · cases h
        · cases h
    · cases h

end

theorem Document.isFinite_of_read? {text : String} {d : Document}
    (h : Document.read? text = some d) : d.IsFinite := by
  unfold Document.read? at h
  dsimp only at h
  split at h
  · rename_i hread
    rw [Option.ite_none_right_eq_some, Option.some.injEq] at h
    exact h.2 ▸ isFinite_of_readDocument? hread
  · cases h

/-! ## Values -/

theorem Members.isFinite_insert {members : Members} (hmembers : ∀ m ∈ members, m.2.IsFinite)
    (key : String) {v : Json} (hv : v.IsFinite) :
    ∀ m ∈ members.insert key v, m.2.IsFinite := by
  induction members with
  | nil => exact List.forall_mem_cons.mpr ⟨hv, hmembers⟩
  | cons first rest ih =>
    obtain ⟨hfirst, hrest⟩ := List.forall_mem_cons.mp hmembers
    obtain ⟨k, w⟩ := first
    unfold Members.insert
    split
    · exact List.forall_mem_cons.mpr ⟨hv, hmembers⟩
    · split
      · exact List.forall_mem_cons.mpr ⟨hv, hrest⟩
      · exact List.forall_mem_cons.mpr ⟨hfirst, ih hrest⟩

theorem Members.isFinite_ofList {members : List (String × Json)}
    (hmembers : ∀ m ∈ members, m.2.IsFinite) : ∀ m ∈ ofList members, m.2.IsFinite := by
  unfold ofList
  refine List.foldlRecOn (motive := fun sorted : Members => ∀ m ∈ sorted, m.2.IsFinite) members _
    (fun m hm => absurd hm List.not_mem_nil) ?_
  intro sorted hsorted m hm
  exact isFinite_insert hsorted m.1 (hmembers m hm)

mutual

theorem Document.isFinite_of_value? {room : Nat} {d : Document} {v : Json} (hd : d.IsFinite)
    (h : d.value? room = some v) : v.IsFinite := by
  cases hd with
  | null =>
    unfold Document.value? at h
    cases h
    exact .null
  | bool b =>
    unfold Document.value? at h
    cases h
    exact .bool b
  | number hn =>
    unfold Document.value? at h
    obtain ⟨n, hsome, rfl⟩ := Option.map_eq_some_iff.mp h
    exact .number (hn n hsome)
  | text s =>
    unfold Document.value? at h
    obtain ⟨s, -, rfl⟩ := Option.map_eq_some_iff.mp h
    exact .text s
  | array hitems =>
    cases room with
    | zero =>
      unfold Document.value? at h
      cases h
    | succ room =>
      unfold Document.value? at h
      obtain ⟨vs, hvs, rfl⟩ := Option.map_eq_some_iff.mp h
      exact .array (Document.isFinite_of_values? hitems hvs)
  | object hmembers =>
    cases room with
    | zero =>
      unfold Document.value? at h
      cases h
    | succ room =>
      unfold Document.value? at h
      obtain ⟨ms, hms, rfl⟩ := Option.map_eq_some_iff.mp h
      exact .object (Members.isFinite_ofList (Document.isFinite_of_members? hmembers hms))

theorem Document.isFinite_of_values? {room : Nat} {ds : List Document} {vs : List Json}
    (hds : ∀ d ∈ ds, d.IsFinite) (h : Document.values? room ds = some vs) :
    ∀ v ∈ vs, v.IsFinite := by
  cases ds with
  | nil =>
    unfold Document.values? at h
    cases h
    exact fun _ hv => absurd hv List.not_mem_nil
  | cons d ds =>
    obtain ⟨hd, hrest⟩ := List.forall_mem_cons.mp hds
    unfold Document.values? at h
    obtain ⟨v, hv, h⟩ := Option.bind_eq_some_iff.mp h
    obtain ⟨vs, hvs, h⟩ := Option.bind_eq_some_iff.mp h
    cases h
    exact List.forall_mem_cons.mpr
      ⟨Document.isFinite_of_value? hd hv, Document.isFinite_of_values? hrest hvs⟩

theorem Document.isFinite_of_members? {room : Nat} {ds : List (Option String × Document)}
    {ms : List (String × Json)} (hds : ∀ d ∈ ds, d.2.IsFinite)
    (h : Document.members? room ds = some ms) : ∀ m ∈ ms, m.2.IsFinite := by
  cases ds with
  | nil =>
    unfold Document.members? at h
    cases h
    exact fun _ hm => absurd hm List.not_mem_nil
  | cons d ds =>
    obtain ⟨hd, hrest⟩ := List.forall_mem_cons.mp hds
    unfold Document.members? at h
    obtain ⟨key, -, h⟩ := Option.bind_eq_some_iff.mp h
    obtain ⟨v, hv, h⟩ := Option.bind_eq_some_iff.mp h
    obtain ⟨ms, hms, h⟩ := Option.bind_eq_some_iff.mp h
    cases h
    exact List.forall_mem_cons.mpr
      ⟨Document.isFinite_of_value? hd hv, Document.isFinite_of_members? hrest hms⟩

end

/-- **Numbers of a value.** Every number of a value that is read is a finite double. -/
theorem isFinite_of_read? {text : String} {v : Json} (h : read? text = some v) : v.IsFinite := by
  obtain ⟨d, hd, hv⟩ := Option.bind_eq_some_iff.mp h
  exact Document.isFinite_of_value? (Document.isFinite_of_read? hd) hv

/-! ## Parts of a value -/

theorem IsFinite.of_mem {items : List Json} (h : IsFinite (.array items)) {v : Json}
    (hv : v ∈ items) : v.IsFinite := by
  cases h with
  | array hitems => exact hitems v hv

theorem IsFinite.of_member? {v w : Json} {key : String} (h : v.IsFinite)
    (hw : v.member? key = some w) : w.IsFinite := by
  cases h with
  | object hmembers =>
    obtain ⟨m, hm, rfl⟩ := Option.map_eq_some_iff.mp hw
    exact hmembers m (List.mem_of_find?_eq_some hm)
  | _ => cases hw

theorem IsFinite.of_float? {v : Json} {x : Float} (h : v.IsFinite) (hx : v.float? = some x) :
    x.isFinite = true := by
  cases h with
  | number hn =>
    cases hx
    exact hn
  | _ => cases hx

end GeoDrafts.Json
