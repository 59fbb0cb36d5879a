import GeoDrafts.Json.Value

/-!
The members of an object as a map from keys to values. Setting the value of one key leaves the
values of all others as they were.
-/

namespace GeoDrafts.Json.Members

variable {key key' : String}

theorem find?_cons (key k : String) (v : Json) (rest : Members) :
    find? key ((k, v) :: rest) = if k = key then some v else find? key rest := by
  by_cases h : k = key <;> simp [find?, h]

theorem find?_insert_self (key : String) (value : Json) (members : Members) :
    (members.insert key value).find? key = some value := by
  induction members with
  | nil => rw [insert, find?_cons, if_pos rfl]
  | cons m rest ih =>
    obtain ⟨k, v⟩ := m
    rw [insert]
    split
    · rw [find?_cons, if_pos rfl]
    · split
      · rw [find?_cons, if_pos rfl]
      · rename_i hne
        rw [find?_cons, if_neg (Ne.symm hne), ih]

theorem find?_insert_of_ne (h : key' ≠ key) (value : Json) (members : Members) :
    (members.insert key value).find? key' = members.find? key' := by
  induction members with
  | nil => rw [insert, find?_cons, if_neg h.symm]
  | cons m rest ih =>
    obtain ⟨k, v⟩ := m
    rw [insert]
    split
    · rw [find?_cons, if_neg h.symm]
    · split
      · rename_i heq
        rw [find?_cons, if_neg h.symm, find?_cons, if_neg (heq ▸ h.symm)]
      · rw [find?_cons, find?_cons, ih]

theorem insertNew_of_isSome {members : Members} (h : (members.find? key).isSome = true)
    (value : Json) : members.insertNew key value = members :=
  if_pos h

theorem insertNew_of_eq_none {members : Members} (h : members.find? key = none) (value : Json) :
    members.insertNew key value = members.insert key value := by
  rw [insertNew, h]
  rfl

theorem find?_insertNew_self (key : String) (value : Json) (members : Members) :
    (members.insertNew key value).find? key = some ((members.find? key).getD value) := by
  cases h : members.find? key with
  | none => rw [insertNew_of_eq_none h, find?_insert_self, Option.getD_none]
  | some v => rw [insertNew_of_isSome (by rw [h]; rfl), h, Option.getD_some]

end GeoDrafts.Json.Members
