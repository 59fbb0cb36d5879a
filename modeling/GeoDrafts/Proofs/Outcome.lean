import Mathlib.Data.List.Forall2

/-!
Steps that can fail. If a sequence of them succeeds, each step did.
-/

namespace GeoDrafts

variable {ε α γ δ : Type}

theorem exists_of_bind {x : Except ε γ} {f : γ → Except ε δ} {d : δ} (h : x >>= f = .ok d) :
    ∃ c, x = .ok c ∧ f c = .ok d := by
  cases x with
  | error e => cases h
  | ok c => exact ⟨c, rfl, h⟩

theorem exists_of_map {x : Except ε γ} {f : γ → δ} {d : δ} (h : x.map f = .ok d) :
    ∃ c, x = .ok c ∧ f c = d := by
  cases x with
  | error e => cases h
  | ok c => exact ⟨c, rfl, Except.ok.inj h⟩

theorem ok_of_toOption {x : Except ε γ} {c : γ} (h : x.toOption = some c) : x = .ok c := by
  cases x with
  | error e => cases h
  | ok d => exact congrArg Except.ok (Option.some.inj h)

/-- If a step fails, either it does so itself or the one that follows it. -/
theorem error_of_bind {x : Except ε γ} {f : γ → Except ε δ} {e : ε} (h : x >>= f = .error e) :
    x = .error e ∨ ∃ c, x = .ok c ∧ f c = .error e := by
  cases x with
  | error cause =>
    cases h
    exact .inl rfl
  | ok c => exact .inr ⟨c, rfl, h⟩

/-- Every item of a list is read, and the first failure is the failure of all. What holds of what
each item gives holds of everything that was read. -/
theorem forall_of_readAll (read : α → Except ε γ) (give : γ → List δ)
    (readAll : List α → Except ε (List δ)) (hnil : readAll [] = .ok [])
    (hcons : ∀ a as, readAll (a :: as) = do
      let c ← read a
      let ds ← readAll as
      .ok (give c ++ ds))
    {P : δ → Prop} {as : List α} (hread : ∀ a ∈ as, ∀ c, read a = .ok c → ∀ d ∈ give c, P d)
    {ds : List δ} (h : readAll as = .ok ds) : ∀ d ∈ ds, P d := by
  induction as generalizing ds with
  | nil =>
    rw [hnil, Except.ok.injEq] at h
    subst h
    exact fun d hd => absurd hd List.not_mem_nil
  | cons a as ih =>
    rw [hcons] at h
    obtain ⟨c, hc, h⟩ := exists_of_bind h
    obtain ⟨more, hmore, h⟩ := exists_of_bind h
    cases h
    obtain ⟨hfirst, hrest⟩ := List.forall_mem_cons.mp hread
    exact List.forall_mem_append.mpr ⟨hfirst c hc, ih hrest hmore⟩

/-- The same, where each item gives one thing. -/
theorem forall_of_readEach (read : α → Except ε γ) (readAll : List α → Except ε (List γ))
    (hnil : readAll [] = .ok [])
    (hcons : ∀ a as, readAll (a :: as) = do
      let c ← read a
      let cs ← readAll as
      .ok (c :: cs))
    {P : γ → Prop} {as : List α} (hread : ∀ a ∈ as, ∀ c, read a = .ok c → P c)
    {cs : List γ} (h : readAll as = .ok cs) : ∀ c ∈ cs, P c :=
  forall_of_readAll read (fun c => [c]) readAll hnil hcons
    (fun a ha c hc => List.forall_mem_singleton.mpr (hread a ha c hc)) h

/-- Everything is read just if each item of the list is, one by one. -/
theorem readEach_eq_ok_iff (read : α → Except ε γ) (readAll : List α → Except ε (List γ))
    (hnil : readAll [] = .ok [])
    (hcons : ∀ a as, readAll (a :: as) = do
      let c ← read a
      let cs ← readAll as
      .ok (c :: cs))
    {as : List α} {cs : List γ} :
    readAll as = .ok cs ↔ List.Forall₂ (fun a c => read a = .ok c) as cs := by
  constructor
  · intro h
    induction as generalizing cs with
    | nil =>
      rw [hnil, Except.ok.injEq] at h
      subst h
      exact .nil
    | cons a as ih =>
      rw [hcons] at h
      obtain ⟨c, hc, h⟩ := exists_of_bind h
      obtain ⟨cs, hcs, h⟩ := exists_of_bind h
      cases h
      exact .cons hc (ih hcs)
  · intro h
    induction h with
    | nil => exact hnil
    | cons hc _ ih =>
      rw [hcons, hc, ih]
      rfl

/-- Everything can be read just if each item can. -/
theorem exists_readEach_iff (read : α → Except ε γ) (readAll : List α → Except ε (List γ))
    (hnil : readAll [] = .ok [])
    (hcons : ∀ a as, readAll (a :: as) = do
      let c ← read a
      let cs ← readAll as
      .ok (c :: cs))
    {as : List α} : (∃ cs, readAll as = .ok cs) ↔ ∀ a ∈ as, ∃ c, read a = .ok c := by
  induction as with
  | nil => exact ⟨fun _ => List.forall_mem_nil _, fun _ => ⟨[], hnil⟩⟩
  | cons a as ih =>
    rw [List.forall_mem_cons, ← ih, hcons]
    constructor
    · rintro ⟨cs, h⟩
      obtain ⟨c, hc, h⟩ := exists_of_bind h
      obtain ⟨cs, hcs, -⟩ := exists_of_bind h
      exact ⟨⟨c, hc⟩, cs, hcs⟩
    · rintro ⟨⟨c, hc⟩, cs, hcs⟩
      refine ⟨c :: cs, ?_⟩
      rw [hc, hcs]
      rfl

/-- In another order everything can be read as well, and it gives the same in another order. -/
theorem exists_readAll_of_perm (read : α → Except ε γ) (give : γ → List δ)
    (readAll : List α → Except ε (List δ))
    (hcons : ∀ a as, readAll (a :: as) = do
      let c ← read a
      let ds ← readAll as
      .ok (give c ++ ds))
    {as as' : List α} (hperm : as.Perm as') {ds : List δ} (h : readAll as = .ok ds) :
    ∃ ds', readAll as' = .ok ds' ∧ ds.Perm ds' := by
  induction hperm generalizing ds with
  | nil => exact ⟨ds, h, .refl ds⟩
  | cons a _ ih =>
    rw [hcons] at h
    obtain ⟨c, hc, h⟩ := exists_of_bind h
    obtain ⟨more, hmore, h⟩ := exists_of_bind h
    cases h
    obtain ⟨more', hmore', hperm'⟩ := ih hmore
    refine ⟨give c ++ more', ?_, hperm'.append_left _⟩
    rw [hcons, hc, hmore']
    rfl
  | swap a b as =>
    rw [hcons] at h
    obtain ⟨d, hd, h⟩ := exists_of_bind h
    obtain ⟨both, hboth, h⟩ := exists_of_bind h
    cases h
    rw [hcons] at hboth
    obtain ⟨c, hc, hboth⟩ := exists_of_bind hboth
    obtain ⟨more, hmore, hboth⟩ := exists_of_bind hboth
    cases hboth
    refine ⟨give c ++ (give d ++ more), ?_, ?_⟩
    · rw [hcons, hcons, hc, hd, hmore]
      rfl
    · rw [← List.append_assoc, ← List.append_assoc]
      exact List.perm_append_comm.append_right more
  | trans _ _ ih ih' =>
    obtain ⟨ds', h', hperm'⟩ := ih h
    obtain ⟨ds'', h'', hperm''⟩ := ih' h'
    exact ⟨ds'', h'', hperm'.trans hperm''⟩

end GeoDrafts
