import Mathlib.Data.List.TakeDrop
import GeoDrafts.Text.Blank
import GeoDrafts.Text.DecimalDigit

/-!
Runs of characters. A reader that takes all characters of a class splits a run off just where a
character of another class follows it.
-/

namespace GeoDrafts.Text

section
variable {α : Type} {p : α → Bool} {run rest : List α}

theorem takeWhile_run (hrun : ∀ a ∈ run, p a = true) (hrest : ∀ a ∈ rest.head?, p a = false) :
    (run ++ rest).takeWhile p = run := by
  rw [List.takeWhile_append_of_pos hrun]
  cases rest with
  | nil => simp
  | cons a rest => simp [hrest a rfl]

theorem dropWhile_run (hrun : ∀ a ∈ run, p a = true) (hrest : ∀ a ∈ rest.head?, p a = false) :
    (run ++ rest).dropWhile p = rest := by
  rw [List.dropWhile_append_of_pos hrun]
  cases rest with
  | nil => simp
  | cons a rest => simp [hrest a rfl]

theorem span_run (hrun : ∀ a ∈ run, p a = true) (hrest : ∀ a ∈ rest.head?, p a = false) :
    (run ++ rest).span p = (run, rest) := by
  rw [List.span_eq_takeWhile_dropWhile, takeWhile_run hrun hrest, dropWhile_run hrun hrest]

/-- What is not of the class is not in the run. -/
theorem mem_dropWhile_of_mem {a : α} (ha : p a = false) (h : a ∈ run) : a ∈ run.dropWhile p := by
  rw [← List.takeWhile_append_dropWhile (p := p) (l := run), List.mem_append] at h
  cases h with
  | inl htake => exact absurd (List.all_eq_true.mp List.all_takeWhile a htake) (by simp [ha])
  | inr hdrop => exact hdrop

end

theorem isDecimalDigit_of_isDigit {c : Char} (h : c.isDigit = true) : isDecimalDigit c = true := by
  rw [isDecimalDigit, h, Bool.true_or]

/-- A digit of any script is no blank. -/
theorem isBlankChar_of_isDecimalDigit {c : Char} (h : isDecimalDigit c = true) :
    isBlankChar c = false := by
  have hruns : ∀ first ∈ digitZeros, ∀ k : Fin 10,
      isBlankChar (Char.ofNat (first + k)) = false := by
    decide +kernel
  rw [isDecimalDigit, Bool.or_eq_true] at h
  cases h with
  | inl hdigit =>
    have hcode : 48 ≤ c.toNat ∧ c.toNat ≤ 57 := by
      simpa [Char.isDigit, UInt32.le_iff_toNat_le] using hdigit
    simp [isBlankChar]
    omega
  | inr hany =>
    obtain ⟨first, hfirst, hcode⟩ := List.any_eq_true.mp hany
    rw [Bool.and_eq_true, decide_eq_true_iff, decide_eq_true_iff] at hcode
    have hblank := hruns first hfirst ⟨c.toNat - first, by omega⟩
    rwa [Nat.add_sub_cancel' hcode.1, Char.ofNat_toNat] at hblank

end GeoDrafts.Text
