import GeoDrafts.Grid.Tiling
import GeoDrafts.Proofs.Decimal.Counting
import GeoDrafts.Proofs.Outcome

/-!
The number of cells in a grid. Columns, rows and their product are doubles, which may be rounded or
infinite; yet the grid is laid just if the exact product is within the limit, and then all of them
are exact.
-/

namespace GeoDrafts.Grid

open Decimal

/-! ## Steps over an extent -/

/-- What is not finite but above one is infinite. -/
theorem tallies_of_one_lt {x : Float} (hx : x.isFinite = false) (h : 1.0 < x) :
    Tallies (2 ^ 53) x := by
  obtain ⟨m, e, hm, hone, -, -⟩ := holds_one.exists_finite one_ne_zero
  rw [lt_iff, hone] at h
  refine .large le_rfl ?_
  have hfinite : x.toModel.unpack.isFinite = false := hx
  cases hunpack : x.toModel.unpack with
  | infinity s =>
    cases s with
    | positive => trivial
    | negative =>
      rw [hunpack] at h
      cases h
  | notANumber =>
    rw [hunpack] at h
    cases h
  | _ =>
    rw [hunpack] at hfinite
    cases hfinite

/-- Any quotient makes a count of steps that is at least one. -/
theorem exists_tallies_stepCount (extent step : Float) :
    ∃ n, 0 < n ∧ Tallies n (stepCount extent step) := by
  have hnan : (1.0 : Float).isNaN = false := by rfl
  unfold stepCount larger
  generalize extent / step = z
  rw [hnan, Bool.false_or]
  by_cases hlt : 1.0 < roundUp z
  · rw [if_pos (decide_eq_true hlt)]
    cases hz : z.isFinite with
    | false =>
      rw [roundUp_of_not_isFinite hz] at hlt ⊢
      exact ⟨2 ^ 53, by decide, tallies_of_one_lt hz hlt⟩
    | true =>
      obtain ⟨q, hq⟩ := isFinite_iff_value?.mp hz
      have hvalue := value?_roundUp hq
      have hmore : 1 < ⌈q⌉ := by
        exact_mod_cast (lt_iff_of_value? holds_one.value? hvalue).mp hlt
      obtain ⟨n, hn⟩ := Int.eq_ofNat_of_zero_le (by omega : 0 ≤ ⌈q⌉)
      rw [hn, Int.cast_natCast] at hvalue
      exact ⟨n, by omega, .exact (holds_of_value? hvalue (Nat.cast_nonneg n))⟩
  · rw [if_neg (by simpa using hlt)]
    exact ⟨1, one_pos, .exact (by exact_mod_cast holds_one)⟩

/-! ## The cells of a plan -/

/-- A plan with so many columns and rows, as far as doubles can tell. -/
structure Plan.Counts (p : Plan) (columns rows : ℕ) : Prop where
  tallies_columns : Tallies columns p.columns
  tallies_rows : Tallies rows p.rows
  columns_pos : 0 < columns
  rows_pos : 0 < rows
  perPlace_pos : 0 < p.perPlace
  perPlace_lt : p.perPlace < 2 ^ 53

theorem Plan.exists_counts (shape : GridShape) (size : Float) (box : Box) :
    ∃ columns rows, (Plan.ofBox shape size box).Counts columns rows := by
  cases shape with
  | hexagon =>
    obtain ⟨columns, hcolumns, htallies⟩ :=
      exists_tallies_stepCount (box.high.x - box.low.x) (1.5 * size)
    obtain ⟨rows, hrows, htallies'⟩ :=
      exists_tallies_stepCount (box.high.y - box.low.y) (hexagonStep size)
    exact ⟨columns + 1, rows + 1, htallies.succ hcolumns, htallies'.succ hrows, by omega, by omega,
      one_pos, (by decide : 1 < 2 ^ 53)⟩
  | square =>
    obtain ⟨columns, hcolumns, htallies⟩ :=
      exists_tallies_stepCount (box.high.x - box.low.x) size
    obtain ⟨rows, hrows, htallies'⟩ := exists_tallies_stepCount (box.high.y - box.low.y) size
    exact ⟨columns, rows, htallies, htallies', hcolumns, hrows, one_pos, (by decide : 1 < 2 ^ 53)⟩
  | triangle =>
    obtain ⟨columns, hcolumns, htallies⟩ :=
      exists_tallies_stepCount (box.high.x - box.low.x) size
    obtain ⟨rows, hrows, htallies'⟩ := exists_tallies_stepCount (box.high.y - box.low.y) size
    exact ⟨columns, rows, htallies, htallies', hcolumns, hrows, two_pos, (by decide : 2 < 2 ^ 53)⟩

/-- The number of cells is above the limit, or not a number of cells at all. -/
def Plan.Exceeds (p : Plan) : Prop :=
  p.count.isFinite = false ∨ Float.ofNat maxGridCells < p.count

namespace Plan.Counts

variable {p : Plan} {columns rows : ℕ}

/-- The product in floating point is above the limit just if the exact product is. -/
theorem exceeds_iff (h : p.Counts columns rows) :
    p.Exceeds ↔ maxGridCells < columns * rows * p.perPlace := by
  have hperPlace : Tallies p.perPlace (Float.ofNat p.perPlace) :=
    .exact (holds_float_ofNat (isDouble_of_lt h.perPlace_lt))
  have hcount := (h.tallies_columns.mul h.tallies_rows h.columns_pos h.rows_pos).mul hperPlace
    (Nat.mul_pos h.columns_pos h.rows_pos) h.perPlace_pos
  rw [← Nat.not_le, ← hcount.le_iff (by decide), not_and_or, not_not, Bool.not_eq_true]
  rfl

theorem le_limit (h : p.Counts columns rows) (hfits : ¬ p.Exceeds) :
    columns ≤ maxGridCells ∧ rows ≤ maxGridCells ∧ columns * rows ≤ maxGridCells := by
  have hplaces : columns * rows ≤ maxGridCells :=
    (Nat.le_mul_of_pos_right _ h.perPlace_pos).trans (not_lt.mp (mt h.exceeds_iff.mpr hfits))
  exact ⟨(Nat.le_mul_of_pos_right _ h.rows_pos).trans hplaces,
    (Nat.le_mul_of_pos_left _ h.columns_pos).trans hplaces, hplaces⟩

/-- Within the limit, the columns and rows are exact. -/
theorem value?_eq (h : p.Counts columns rows) (hfits : ¬ p.Exceeds) :
    value? p.columns = some (columns : ℚ) ∧ value? p.rows = some (rows : ℚ) := by
  obtain ⟨hcolumns, hrows, -⟩ := h.le_limit hfits
  exact ⟨h.tallies_columns.value?_eq (hcolumns.trans_lt (by decide)),
    h.tallies_rows.value?_eq (hrows.trans_lt (by decide))⟩

/-- Within the limit, the casts to whole numbers change nothing. -/
theorem dimensions_eq (h : p.Counts columns rows) (hfits : ¬ p.Exceeds) :
    p.dimensions = .ok (columns, rows) := by
  obtain ⟨hcolumns, hrows, -⟩ := h.le_limit hfits
  obtain ⟨hvalue, hvalue'⟩ := h.value?_eq hfits
  unfold dimensions
  rw [if_neg, saturated_eq hvalue (hcolumns.trans_lt (by decide)),
    saturated_eq hvalue' (hrows.trans_lt (by decide))]
  rwa [Bool.or_eq_true, Bool.not_eq_true', decide_eq_true_iff]

end Plan.Counts

theorem Plan.dimensions_of_exceeds {p : Plan} (h : p.Exceeds) :
    ∃ n, p.dimensions = .error (.tooManyCells n) := by
  unfold dimensions
  refine ⟨_, if_pos ?_⟩
  rwa [Bool.or_eq_true, Bool.not_eq_true', decide_eq_true_iff]

/-! ## Candidates -/

theorem length_places (columns rows : ℕ) : (places columns rows).length = columns * rows := by
  simp [places, List.length_flatMap]

theorem length_cellsAt (shape : GridShape) (low : Coord) (size : Float) (i j : ℕ) (box : Box) :
    (cellsAt shape low size i j).length = (Plan.ofBox shape size box).perPlace := by
  cases shape <;> rfl

theorem candidates_of_exceeds {shape : GridShape} {size : Float} {box : Box}
    (h : (Plan.ofBox shape size box).Exceeds) :
    ∃ n, candidates shape size box = .error (.tooManyCells n) := by
  obtain ⟨n, hn⟩ := Plan.dimensions_of_exceeds h
  refine ⟨n, ?_⟩
  rw [candidates, hn]
  rfl

/-- Where the plan is within the limit, there is one candidate for each place and cell in it. -/
theorem candidates_of_not_exceeds {shape : GridShape} {size : Float} {box : Box}
    (h : ¬ (Plan.ofBox shape size box).Exceeds) :
    ∃ (columns rows : ℕ) (rings : List Ring),
      value? (Plan.ofBox shape size box).columns = some (columns : ℚ) ∧
      value? (Plan.ofBox shape size box).rows = some (rows : ℚ) ∧
      (Plan.ofBox shape size box).dimensions = .ok (columns, rows) ∧ columns * rows < 2 ^ 64 ∧
      candidates shape size box = .ok rings ∧
      rings.length = columns * rows * (Plan.ofBox shape size box).perPlace ∧
      rings.length ≤ maxGridCells := by
  obtain ⟨columns, rows, hcounts⟩ := Plan.exists_counts shape size box
  have hwithin := not_lt.mp (mt hcounts.exceeds_iff.mpr h)
  obtain ⟨hcolumns, hrows⟩ := hcounts.value?_eq h
  have hdimensions := hcounts.dimensions_eq h
  have hplaces : columns * rows < 2 ^ 64 := (hcounts.le_limit h).2.2.trans_lt (by decide)
  have hlength : ((places columns rows).flatMap fun place =>
      cellsAt shape box.low size place.1 place.2).length =
        columns * rows * (Plan.ofBox shape size box).perPlace := by
    simp [List.length_flatMap, length_cellsAt shape box.low size _ _ box, length_places]
  refine ⟨columns, rows, _, hcolumns, hrows, hdimensions, hplaces, ?_, hlength,
    hlength.trans_le hwithin⟩
  rw [candidates, hdimensions]
  rfl

theorem length_candidates_le {shape : GridShape} {size : Float} {box : Box} {rings : List Ring}
    (h : candidates shape size box = .ok rings) : rings.length ≤ maxGridCells := by
  by_cases hexceeds : (Plan.ofBox shape size box).Exceeds
  · obtain ⟨n, hn⟩ := candidates_of_exceeds hexceeds
    rw [hn] at h
    cases h
  · obtain ⟨_, _, rings', -, -, -, -, hrings, -, hle⟩ := candidates_of_not_exceeds hexceeds
    obtain rfl := Except.ok.inj (h.symm.trans hrings)
    exact hle

section
variable {g : PolygonGeometry} {shape : GridShape} {size : Float}

/-- Cells are dropped from the candidates, and none is added. -/
theorem exists_candidates_of_cells {areas : List PolygonGeometry}
    (h : cells g shape size = .ok areas) :
    ∃ box rings, candidates shape size box = .ok rings ∧ areas.length ≤ rings.length := by
  unfold cells at h
  split at h
  · cases h
  · split at h
    · cases h
    · rename_i box _
      split at h
      · obtain ⟨rings, hrings, h⟩ := exists_of_bind h
        cases h
        refine ⟨box, rings, hrings, ?_⟩
        rw [List.length_map]
        exact List.length_filter_le _ _
      · cases h

theorem cells_of_candidates_eq_error {box : Box} {e : GridError} (hsize : isCellSize size = true)
    (hbox : g.boundingBox? = some box) (hwidth : (box.high.x - box.low.x).isFinite = true)
    (hheight : (box.high.y - box.low.y).isFinite = true)
    (h : candidates shape size box = .error e) : cells g shape size = .error e := by
  unfold cells
  rw [hsize, hbox]
  dsimp only
  rw [hwidth, hheight, h]
  rfl

end

/-- **The limit on cells.** No grid has more than the limit. Where the number of cells in floating
point is above the limit or not finite, the columns and rows are refused, and no candidate is made.
Elsewhere the columns and rows are exact as doubles and as whole numbers, their product takes no
more than 64 bits, and there is a candidate for each cell, within the limit. -/
theorem cells_within_limit (g : PolygonGeometry) (shape : GridShape) (size : Float) :
    (∀ areas, cells g shape size = .ok areas → areas.length ≤ maxGridCells) ∧
    ∀ box, let plan := Plan.ofBox shape size box
      (plan.Exceeds → ∃ n, candidates shape size box = .error (.tooManyCells n) ∧
        (isCellSize size = true → g.boundingBox? = some box →
          (box.high.x - box.low.x).isFinite = true → (box.high.y - box.low.y).isFinite = true →
          cells g shape size = .error (.tooManyCells n))) ∧
      (¬ plan.Exceeds → ∃ (columns rows : ℕ) (rings : List Ring),
        value? plan.columns = some (columns : ℚ) ∧ value? plan.rows = some (rows : ℚ) ∧
        plan.dimensions = .ok (columns, rows) ∧ columns * rows < 2 ^ 64 ∧
        candidates shape size box = .ok rings ∧
        rings.length = columns * rows * plan.perPlace ∧ rings.length ≤ maxGridCells) := by
  refine ⟨fun areas h => ?_, fun box => ⟨fun hexceeds => ?_, candidates_of_not_exceeds⟩⟩
  · obtain ⟨box, rings, hrings, hle⟩ := exists_candidates_of_cells h
    exact hle.trans (length_candidates_le hrings)
  · obtain ⟨n, hn⟩ := candidates_of_exceeds hexceeds
    exact ⟨n, hn, fun hsize hbox hwidth hheight =>
      cells_of_candidates_eq_error hsize hbox hwidth hheight hn⟩

/-- A field of 100 by 100 squares is at the limit; as triangles there are twice as many, and on the
smallest cells that are no zero the number of squares is infinite. -/
theorem cells_within_limit_of_field :
    let field : PolygonGeometry := .polygon [[⟨0, 0⟩, ⟨100, 0⟩, ⟨100, 100⟩, ⟨0, 100⟩, ⟨0, 0⟩]]
    let box : Box := ⟨⟨0, 0⟩, ⟨100, 100⟩⟩
    let least : Float := 5e-324
    field.boundingBox? = some box ∧
      (∃ areas, cells field .square 50 = .ok areas ∧ areas.length ≤ maxGridCells) ∧
      (∃ rings, candidates .square 1 box = .ok rings ∧ rings.length = 10000) ∧
      (∃ n, cells field .triangle 1 = .error (.tooManyCells n)) ∧
      (Plan.ofBox .square least box).count.isFinite = false ∧
      ∃ n, cells field .square least = .error (.tooManyCells n) := by
  intro field box least
  have hbox : field.boundingBox? = some box := by decide +kernel
  have hfinite : (box.high.x - box.low.x).isFinite = true ∧
      (box.high.y - box.low.y).isFinite = true := by decide +kernel
  have hinfinite : (Plan.ofBox .square least box).count.isFinite = false := by decide +kernel
  refine ⟨hbox, ?_, ?_, ?_, hinfinite, ?_⟩
  · have hfour : ((cells field .square 50).map List.length).toOption = some 4 := by
      decide +kernel
    obtain ⟨areas, hareas, -⟩ := exists_of_map (ok_of_toOption hfour)
    exact ⟨areas, hareas, (cells_within_limit field .square 50).1 areas hareas⟩
  · have hfits : ¬ (Plan.ofBox .square 1 box).Exceeds := by
      unfold Plan.Exceeds
      decide +kernel
    obtain ⟨columns, rows, rings, -, -, hdimensions, -, hrings, hlength, -⟩ :=
      ((cells_within_limit field .square 1).2 box).2 hfits
    have hhundred : (Plan.ofBox .square 1 box).dimensions.toOption = some (100, 100) := by
      decide +kernel
    rw [hdimensions] at hhundred
    cases hhundred
    exact ⟨rings, hrings, hlength⟩
  · have hexceeds : (Plan.ofBox .triangle 1 box).Exceeds := .inr (by decide +kernel)
    obtain ⟨n, -, hcells⟩ := ((cells_within_limit field .triangle 1).2 box).1 hexceeds
    exact ⟨n, hcells (by decide +kernel) hbox hfinite.1 hfinite.2⟩
  · obtain ⟨n, -, hcells⟩ :=
      ((cells_within_limit field .square least).2 box).1 (.inl hinfinite)
    exact ⟨n, hcells (by decide +kernel) hbox hfinite.1 hfinite.2⟩

end GeoDrafts.Grid
