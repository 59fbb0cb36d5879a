import GeoDrafts.Proofs.Markup.Writing

/-!
The elements of a tree in document order, an element before its children. It is the order in which
the events of a text open them.
-/

namespace GeoDrafts.Markup

namespace Element

mutual

def preorder : Element → List Element
  | ⟨name, attributes, children, rawText⟩ =>
    ⟨name, attributes, children, rawText⟩ :: preorderOfAll children

def preorderOfAll : List Element → List Element
  | [] => []
  | e :: es => preorder e ++ preorderOfAll es

end

inductive Within (e : Element) : Element → Prop
  | root : Within e e
  | child {c parent : Element} (hchild : c ∈ parent.children) (h : Within e c) : Within e parent

theorem preorder_eq (e : Element) : preorder e = e :: preorderOfAll e.children := by
  cases e
  rw [preorder]

theorem mem_preorderOfAll {e : Element} {es : List Element} :
    e ∈ preorderOfAll es ↔ ∃ c ∈ es, e ∈ preorder c := by
  induction es with
  | nil => simp [preorderOfAll]
  | cons c es ih => rw [preorderOfAll, List.mem_append, ih, List.exists_mem_cons_iff]

mutual

theorem within_of_mem_preorder {e : Element} (root : Element) (h : e ∈ preorder root) :
    Within e root := by
  match root with
  | ⟨name, attributes, children, rawText⟩ =>
    rw [preorder] at h
    rcases List.mem_cons.mp h with rfl | hmem
    · exact .root
    · obtain ⟨c, hchild, hwithin⟩ := exists_within_of_mem children hmem
      exact .child hchild hwithin

theorem exists_within_of_mem {e : Element} (es : List Element) (h : e ∈ preorderOfAll es) :
    ∃ c ∈ es, Within e c := by
  match es with
  | [] =>
    rw [preorderOfAll] at h
    cases h
  | c :: es =>
    rw [preorderOfAll] at h
    rcases List.mem_append.mp h with hfirst | hmore
    · exact ⟨c, List.mem_cons_self, within_of_mem_preorder c hfirst⟩
    · obtain ⟨d, hd, hwithin⟩ := exists_within_of_mem es hmore
      exact ⟨d, List.mem_cons_of_mem c hd, hwithin⟩

end

theorem mem_preorder_iff {e root : Element} : e ∈ preorder root ↔ Within e root := by
  refine ⟨within_of_mem_preorder root, fun h => ?_⟩
  induction h with
  | root =>
    rw [preorder_eq]
    exact List.mem_cons_self
  | @child c parent hchild _ ih =>
    rw [preorder_eq]
    exact List.mem_cons_of_mem parent (mem_preorderOfAll.mpr ⟨c, hchild, ih⟩)

/-! ## Elements with a name -/

mutual

theorem descendantsNamed_eq (name : String) (e : Element) :
    descendantsNamed name e = (preorderOfAll e.children).filter fun c => c.name == name := by
  match e with
  | ⟨_, _, children, _⟩ =>
    rw [descendantsNamed]
    exact namedWithin_eq name children

theorem namedWithin_eq (name : String) (es : List Element) :
    namedWithin name es = (preorderOfAll es).filter fun c => c.name == name := by
  match es with
  | [] =>
    rw [namedWithin, preorderOfAll]
    rfl
  | e :: es =>
    rw [namedWithin, preorderOfAll, List.filter_append, preorder_eq, List.filter_cons,
      descendantsNamed_eq name e, namedWithin_eq name es]
    split <;> rfl

end

/-! ## Order of the events -/

def tag (e : Element) : Tag := ⟨e.name, e.attributes⟩

end Element

open Element

def Event.tag? : Event → Option Tag
  | .start tag | .empty tag => tag.toOption
  | _ => none

theorem Content.tags {children : List Element} {rawText : String} {events : List Event}
    (h : Content children rawText events) :
    events.filterMap Event.tag? = (preorderOfAll children).map Element.tag := by
  induction h with
  | nil => rfl
  | text s _ ih => exact ih
  | empty tag _ ih =>
    rw [preorderOfAll, preorder, preorderOfAll, List.map_append, ← ih]
    rfl
  | element tag _ _ ihinner ih =>
    rw [preorderOfAll, preorder, List.map_append, List.map_cons, ← ih, ← ihinner,
      List.filterMap_cons, List.filterMap_append]
    rfl

theorem tags_significant (level : Nat) (events : List Event) :
    (significant level events).filterMap Event.tag? = events.filterMap Event.tag? := by
  induction events generalizing level with
  | nil => rfl
  | cons event events ih =>
    rw [significant]
    split
    · rename_i hignored
      have hnone : event.tag? = none := by
        cases event with
        | text content | other => rfl
        | _ => cases hignored
      rw [ih, List.filterMap_cons_none hnone]
    · rw [List.filterMap_cons, List.filterMap_cons, ih]

/-- A text opens the elements of its tree in their order. -/
theorem tags_of_read {text : String} {root : Element} (h : Element.read text = .ok root) :
    (events text).filterMap Event.tag? = (preorder root).map Element.tag := by
  have hwriting := (writing_of_build h .nothing).content.tags
  rw [List.nil_append, tags_significant, preorderOfAll, preorderOfAll, List.append_nil] at hwriting
  exact hwriting

end GeoDrafts.Markup
