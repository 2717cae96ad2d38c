import TapeSheet.Proofs.Display
import TapeSheet.Accuracy
import Mathlib.Algebra.BigOperators.Intervals
import Mathlib.Algebra.Order.Field.Basic
import Mathlib.Algebra.Order.Field.Rat
import Mathlib.Data.Nat.Count
import Mathlib.Tactic.Linarith

/-!
# The score of a rendering

The difference of two grids counts cells: those that differ where both grids have them, and those that only one has
(`gridDifference_eq_card`, `cellCount_le_gridDifference`). A sheet of any rules about cells of the row is therefore
scored by its wrong cells, and a grid that ends above the compiled depth loses the rows that it lacks.
-/

namespace TapeSheet.Scoring
open TapeSheet.LightCone TapeSheet.Cover TapeSheet.Compilation TapeSheet.Display

/-- The exact value of a score. -/
def share (s : Score) : ℚ := max 0 (1 - (s.wrong : ℚ) / s.cells)

theorem share_of_le {s : Score} (some : 0 < s.cells) (le : s.wrong ≤ s.cells) :
    share s = 1 - (s.wrong : ℚ) / s.cells := by
  apply max_eq_right
  have cells : (0 : ℚ) < s.cells := Nat.cast_pos.mpr some
  have atMost : (s.wrong : ℚ) / s.cells ≤ 1 := (div_le_one cells).mpr (Nat.cast_le.mpr le)
  linarith

/-- A score is full if nothing is wrong. -/
theorem share_eq_one_iff {s : Score} (some : 0 < s.cells) : share s = 1 ↔ s.wrong = 0 := by
  have cells : (0 : ℚ) < s.cells := Nat.cast_pos.mpr some
  constructor
  · intro full
    by_contra wrong
    have positive : (0 : ℚ) < s.wrong := Nat.cast_pos.mpr (Nat.pos_of_ne_zero wrong)
    have lost : 0 < (s.wrong : ℚ) / s.cells := div_pos positive cells
    have less : share s < 1 := max_lt zero_lt_one (by linarith)
    exact absurd full (ne_of_lt less)
  · intro wrong
    simp [share, wrong]

theorem share_le_one (s : Score) : share s ≤ 1 := by
  apply max_le zero_le_one
  have : (0 : ℚ) ≤ (s.wrong : ℚ) / s.cells := div_nonneg (Nat.cast_nonneg _) (Nat.cast_nonneg _)
  linarith

/-! ## Differences of grids -/

theorem cellCount_map {α : Type} (m n : Nat) (f : Nat → List α) (size : ∀ r, (f r).length = n) :
    cellCount ((List.range m).map f) = m * n := by
  have counted : ∀ rows : List Nat, cellCount (rows.map f) = rows.length * n := by
    intro rows
    induction rows with
    | nil => simp [cellCount]
    | cons r rest ih =>
      rw [List.map_cons, cellCount, size, ih, List.length_cons, Nat.succ_mul, Nat.add_comm]
  rw [counted, List.length_range]

section Differences
variable {α : Type} [BEq α]

/-- Two rows of one length differ in the places where their cells do. -/
theorem rowDifference_map (n : Nat) (f g : Nat → α) :
    rowDifference ((List.range n).map f) ((List.range n).map g) = (List.range n).countP fun i => f i != g i := by
  induction List.range n with
  | nil => rfl
  | cons i rest ih =>
    simp only [List.map_cons, rowDifference, ih, List.countP_cons, bne]
    cases f i == g i <;> simp [Nat.add_comm]

/-- Two grids of one number of rows differ by what their rows differ. -/
theorem gridDifference_map (m : Nat) (f g : Nat → List α) :
    gridDifference ((List.range m).map f) ((List.range m).map g) =
      ((List.range m).map fun r => rowDifference (f r) (g r)).sum := by
  induction List.range m with
  | nil => rfl
  | cons r rest ih => simp only [List.map_cons, gridDifference, ih, List.sum_cons]

theorem length_le_rowDifference (xs ys : List α) : xs.length ≤ ys.length + rowDifference xs ys := by
  induction xs generalizing ys with
  | nil => simp
  | cons x xs ih =>
    cases ys with
    | nil => simp [rowDifference]
    | cons y ys =>
      have := ih ys
      simp only [rowDifference, List.length_cons]
      omega

/-- Cells that one grid has more than another one are among their differences. -/
theorem cellCount_le_gridDifference (a b : List (List α)) : cellCount a ≤ cellCount b + gridDifference a b := by
  induction a generalizing b with
  | nil => simp [cellCount]
  | cons row rest ih =>
    cases b with
    | nil => simp [gridDifference, cellCount]
    | cons other others =>
      have rows := length_le_rowDifference row other
      have grids := ih others
      simp only [cellCount, gridDifference]
      omega

end Differences

/-! ## Wrong cells -/

/-- The difference of two grids of one size is the number of cells in which they differ. -/
theorem gridDifference_eq_card (m n : Nat) (f g : Nat → Nat → Bool) :
    gridDifference ((List.range m).map fun r => (List.range n).map (f r))
        ((List.range m).map fun r => (List.range n).map (g r)) =
      ((Finset.range m ×ˢ Finset.range n).filter fun cell => f cell.1 cell.2 ≠ g cell.1 cell.2).card := by
  have rows : ∀ r, rowDifference ((List.range n).map (f r)) ((List.range n).map (g r)) =
      ((Finset.range n).filter fun c => f r c ≠ g r c).card := by
    intro r
    rw [rowDifference_map, ← Nat.count_eq_card_filter_range, Nat.count]
    apply List.countP_congr
    intro c _
    simp
  rw [gridDifference_map]
  simp only [rows, Finset.card_filter, Finset.sum_product]
  rfl

/-- The cells down to a sheet's depth, by the rows above them and their column, that it lights although they are
    dead in the evolution of the row, or leaves dark although they are alive. -/
def wrongCells (s : Sheet) (root : List Bool) : Finset (ℕ × ℕ) :=
  (Finset.range s.maxRow.toNat ×ˢ Finset.range s.cols.toNat).filter fun cell =>
    ¬ (Lit s root ⟨cell.1 + 1, cell.2⟩ ↔ rule110.steps (cell.1 + 1) (Tape.ofRow root) cell.2 = true)

/-- The first rows that a sheet shows on a row. -/
def shown (s : Sheet) (root : List Bool) (rows : Nat) : List (List Bool) :=
  (List.range rows).map fun (row : Nat) => (List.range s.cols.toNat).map fun (col : Nat) =>
    decide (Lit s root ⟨row + 1, col⟩)

section Scores
variable {s : Sheet} {root : List Bool}

/-- A sheet is scored by the difference of its rows from the evolution, in parts of the cells down to its depth. -/
theorem scoreOn_eq (someCols : 1 ≤ s.cols) (someRows : 1 ≤ s.maxRow) (onTape : OnTape s)
    (size : (root.length : Int) = s.cols) :
    s.scoreOn root = .ok
      { wrong := gridDifference (evolution (Tape.ofRow root) s.maxRow.toNat s.cols.toNat)
          (shown s root (min s.maxRow.toNat s.rows.toNat))
        cells := s.maxRow.toNat * s.cols.toNat } := by
  have width : root.length = s.cols.toNat := by omega
  have expected : evolvedGrid root s.maxRow = .ok (evolution (Tape.ofRow root) s.maxRow.toNat s.cols.toNat) := by
    have run := evolvedGrid_eq root s.maxRow.toNat
    rwa [Int.toNat_of_nonneg (by omega), width] at run
  have rendered : (((List.range s.rows.toNat).map fun (row : Nat) => (List.range s.cols.toNat).map fun (col : Nat) =>
      decide (Lit s root ⟨row + 1, col⟩)).take s.maxRow.toNat) = shown s root (min s.maxRow.toNat s.rows.toNat) := by
    rw [← List.map_take, List.take_range, shown]
  have expectedCells : cellCount (evolution (Tape.ofRow root) s.maxRow.toNat s.cols.toNat) =
      s.maxRow.toNat * s.cols.toNat := cellCount_map _ _ _ (fun _ => by simp)
  have renderedCells : cellCount (shown s root (min s.maxRow.toNat s.rows.toNat)) =
      min s.maxRow.toNat s.rows.toNat * s.cols.toNat := cellCount_map _ _ _ (fun _ => by simp)
  have fewer : min s.maxRow.toNat s.rows.toNat * s.cols.toNat ≤ s.maxRow.toNat * s.cols.toNat :=
    Nat.mul_le_mul_right _ (Nat.min_le_left ..)
  have someCells : s.maxRow.toNat * s.cols.toNat ≠ 0 := Nat.mul_ne_zero (by omega) (by omega)
  unfold Sheet.scoreOn
  rw [litGrid_eq size onTape, expected]
  simp only [bind, Except.bind, pure, Except.pure]
  rw [rendered, agreement, expectedCells, renderedCells, if_neg someCells, Nat.max_eq_left fewer]

/-- A sheet with all rows down to its depth differs from the evolution in its wrong cells. -/
theorem difference_of_deep (root : List Bool) (deep : s.maxRow.toNat ≤ s.rows.toNat) :
    gridDifference (evolution (Tape.ofRow root) s.maxRow.toNat s.cols.toNat)
      (shown s root (min s.maxRow.toNat s.rows.toNat)) = (wrongCells s root).card := by
  rw [Nat.min_eq_left deep, evolution, shown, gridDifference_eq_card s.maxRow.toNat s.cols.toNat
    (fun above (col : Nat) => rule110.steps (above + 1) (Tape.ofRow root) col)
    (fun (row col : Nat) => decide (Lit s root ⟨row + 1, col⟩)), wrongCells]
  congr 1
  apply Finset.filter_congr
  intro cell _
  rw [ne_comm, Ne, Bool.eq_iff_iff, decide_eq_true_iff]

/-- A sheet that ends above its depth lacks cells. -/
theorem difference_of_shallow (root : List Bool) (someCols : 1 ≤ s.cols) (shallow : s.rows.toNat < s.maxRow.toNat) :
    0 < gridDifference (evolution (Tape.ofRow root) s.maxRow.toNat s.cols.toNat)
      (shown s root (min s.maxRow.toNat s.rows.toNat)) := by
  have lack := cellCount_le_gridDifference (evolution (Tape.ofRow root) s.maxRow.toNat s.cols.toNat)
    (shown s root (min s.maxRow.toNat s.rows.toNat))
  rw [evolution, shown, cellCount_map _ s.cols.toNat _ (fun _ => by simp),
    cellCount_map _ s.cols.toNat _ (fun _ => by simp), Nat.min_eq_right shallow.le] at lack
  have less : s.rows.toNat * s.cols.toNat < s.maxRow.toNat * s.cols.toNat :=
    Nat.mul_lt_mul_of_pos_right shallow (by omega)
  rw [evolution, shown, Nat.min_eq_right shallow.le]
  omega

theorem wrongCells_card_le : (wrongCells s root).card ≤ s.maxRow.toNat * s.cols.toNat := by
  refine (Finset.card_filter_le _ _).trans ?_
  rw [Finset.card_product, Finset.card_range, Finset.card_range]

/-- No cell is wrong if each cell down to the depth is lit exactly when it is alive. -/
theorem wrongCells_card_eq_zero : (wrongCells s root).card = 0 ↔
    ∀ row col : Int, 1 ≤ row → row ≤ s.maxRow → 0 ≤ col → col < s.cols →
      (Lit s root ⟨row, col⟩ ↔ rule110.steps row.toNat (Tape.ofRow root) col = true) := by
  rw [Finset.card_eq_zero, wrongCells, Finset.filter_eq_empty_iff]
  constructor
  · intro right row col low high left inside
    obtain ⟨above, rfl⟩ : ∃ above : Nat, row = above + 1 := ⟨(row - 1).toNat, by omega⟩
    obtain ⟨c, rfl⟩ := Int.eq_ofNat_of_zero_le left
    have member : (above, c) ∈ Finset.range s.maxRow.toNat ×ˢ Finset.range s.cols.toNat :=
      Finset.mem_product.mpr ⟨Finset.mem_range.mpr (by simp only; omega), Finset.mem_range.mpr (by simp only; omega)⟩
    exact not_not.mp (right member)
  · rintro right ⟨above, c⟩ member
    obtain ⟨rowInside, colInside⟩ := Finset.mem_product.mp member
    have rowInside := Finset.mem_range.mp rowInside
    have colInside := Finset.mem_range.mp colInside
    simp only at rowInside colInside
    exact not_not.mpr (right (above + 1) c (by omega) (by omega) (by omega) (by omega))

/-- A sheet of any rules about cells of the row is scored by its wrong cells down to its depth, or below one if the
    grid ends above that depth. So it is perfect exactly if no row is missing and every cell is right. -/
theorem scoreOn_counts_wrong_cells (s : Sheet) (root : List Bool) (someCols : 1 ≤ s.cols) (someRows : 1 ≤ s.maxRow)
    (onTape : OnTape s) (size : (root.length : Int) = s.cols) :
    (∀ rule ∈ s.rules, rule.holdsOn? root = .ok (decide (Meets root rule.predicates))) ∧
    ∃ score, s.scoreOn root = .ok score ∧
      (s.maxRow ≤ s.rows → share score = 1 - (wrongCells s root).card / ((s.maxRow : ℚ) * s.cols)) ∧
      (s.rows < s.maxRow → share score < 1) ∧
      (share score = 1 ↔ s.maxRow ≤ s.rows ∧ ∀ row col : Int, 1 ≤ row → row ≤ s.maxRow → 0 ≤ col → col < s.cols →
        (Lit s root ⟨row, col⟩ ↔ rule110.steps row.toNat (Tape.ofRow root) col = true)) := by
  have someCells : 0 < s.maxRow.toNat * s.cols.toNat := Nat.mul_pos (by omega) (by omega)
  have perfect := share_eq_one_iff (s := ⟨gridDifference (evolution (Tape.ofRow root) s.maxRow.toNat s.cols.toNat)
    (shown s root (min s.maxRow.toNat s.rows.toNat)), s.maxRow.toNat * s.cols.toNat⟩) someCells
  refine ⟨?_, _, scoreOn_eq someCols someRows onTape size, ?_, ?_, ?_⟩
  · intro rule member
    exact holdsOn_eq rule root (size ▸ onTape rule member)
  · intro deep
    have exactly : ((s.maxRow.toNat * s.cols.toNat : Nat) : ℚ) = (s.maxRow : ℚ) * s.cols := by
      have product : ((s.maxRow.toNat * s.cols.toNat : Nat) : Int) = s.maxRow * s.cols := by
        rw [Nat.cast_mul, Int.toNat_of_nonneg (by omega), Int.toNat_of_nonneg (by omega)]
      exact_mod_cast congrArg (Int.cast : Int → ℚ) product
    rw [difference_of_deep root (by omega), share_of_le someCells wrongCells_card_le, exactly]
  · intro shallow
    have lacking := difference_of_shallow root someCols (by omega : s.rows.toNat < s.maxRow.toNat)
    exact lt_of_le_of_ne (share_le_one _) (fun full => by have := perfect.mp full; simp only at this; omega)
  · rw [perfect, ← wrongCells_card_eq_zero]
    by_cases deep : s.maxRow ≤ s.rows
    · rw [difference_of_deep root (by omega), and_iff_right deep]
    · have lacking := difference_of_shallow root someCols (by omega : s.rows.toNat < s.maxRow.toNat)
      simp only [deep, false_and, iff_false]
      omega

end Scores

/-- A sheet with a rule that lights a cell at the wrong time, the same rule once more and a rule beyond the grid. -/
def strayRules : Sheet where
  rows := 2
  cols := 2
  maxRow := 2
  rules := [⟨[⟨1, true⟩], ⟨2, 1⟩⟩, ⟨[⟨1, true⟩], ⟨2, 1⟩⟩, ⟨[⟨0, false⟩, ⟨1, true⟩], ⟨1, 1⟩⟩, ⟨[], ⟨7, -3⟩⟩]
  note := none

theorem scoreOn_counts_wrong_cells_stray :
    (1 ≤ strayRules.cols ∧ 1 ≤ strayRules.maxRow ∧ OnTape strayRules ∧ ([true, true].length : Int) = strayRules.cols) ∧
    ∃ score, strayRules.scoreOn [true, true] = .ok score ∧ strayRules.maxRow ≤ strayRules.rows ∧
      share score = 1 - (wrongCells strayRules [true, true]).card / ((strayRules.maxRow : ℚ) * strayRules.cols) ∧
      (wrongCells strayRules [true, true]).card = 2 := by
  have onTape : OnTape strayRules := by
    unfold OnTape Inside
    decide
  obtain ⟨_, score, run, deep, _⟩ := scoreOn_counts_wrong_cells strayRules [true, true] (by decide) (by decide)
    onTape (by decide)
  exact ⟨⟨by decide, by decide, onTape, by decide⟩, score, run, by decide, deep (by decide), by decide⟩

end TapeSheet.Scoring
