import TapeSheet.Accuracy

/-!
# The light cone of a cell

A window is a stretch of a tape. A step on a window is the step on the tape, seen on a stretch that is one cell
shorter at both ends (`reduce_window`), so reducing a window of `2 · d + 1` cells gives the cell `d` rows below its
middle on every tape that agrees with it (`cellBelow_window`). The reference grid of a row of cells is therefore the
evolution of the tape that the row stands for.
-/

namespace TapeSheet.LightCone

/-! ## Windows -/

/-- The stretch of a tape from one index on. -/
def window (g : Tape) (first : Int) : Nat → List Bool
  | 0 => []
  | count + 1 => g first :: window g (first + 1) count

theorem window_length (g : Tape) (first : Int) (count : Nat) : (window g first count).length = count := by
  induction count generalizing first with
  | zero => rfl
  | succ count ih => simp [window, ih]

theorem window_getElem (g : Tape) (first : Int) (count i : Nat) (inside : i < (window g first count).length) :
    (window g first count)[i] = g (first + i) := by
  induction count generalizing first i with
  | zero => simp [window] at inside
  | succ count ih =>
    cases i with
    | zero => simp [window]
    | succ i =>
      simp only [window, List.getElem_cons_succ]
      rw [ih]
      congr 1
      omega

/-- Windows are told apart by their cells. -/
theorem window_eq_iff (g h : Tape) (a b : Int) (count : Nat) :
    window g a count = window h b count ↔ ∀ i < count, g (a + i) = h (b + i) := by
  constructor
  · intro same i lt
    have cells : (window g a count)[i]? = (window h b count)[i]? := by rw [same]
    rw [List.getElem?_eq_getElem (by rw [window_length]; exact lt),
      List.getElem?_eq_getElem (by rw [window_length]; exact lt), window_getElem, window_getElem] at cells
    exact Option.some.inj cells
  · intro same
    apply List.ext_getElem
    · rw [window_length, window_length]
    · intro i inside _
      rw [window_getElem, window_getElem]
      exact same i (by rw [window_length] at inside; exact inside)

theorem window_append (g : Tape) (first : Int) (m n : Nat) :
    window g first (m + n) = window g first m ++ window g (first + m) n := by
  induction m generalizing first with
  | zero => simp [window]
  | succ m ih =>
    rw [Nat.succ_add]
    simp only [window, List.cons_append, ih]
    congr 3
    omega

/-- A slice of a window is a window. -/
theorem slice_window (g : Tape) (first : Int) (skip count more : Nat) :
    slice (window g first (skip + count + more)) skip count = window g (first + skip) count := by
  unfold slice
  rw [Nat.add_assoc, window_append, List.drop_left' (window_length ..), window_append,
    List.take_left' (window_length ..)]

/-! ## Rows on tapes -/

theorem ofRow_natCast (row : List Bool) (i : Nat) : Tape.ofRow row i = row.getD i false := rfl

/-- Beyond the row all cells are dead. -/
theorem ofRow_outside (row : List Bool) (i : Int) (outside : i < 0 ∨ (row.length : Int) ≤ i) :
    Tape.ofRow row i = false := by
  cases i with
  | negSucc n => rfl
  | ofNat n =>
    have past : row.length ≤ n := by
      rcases outside with below | above
      · exact absurd below (by simp)
      · exact Int.ofNat_le.mp above
    simp [Tape.ofRow, past]

theorem ofRow_getElem (row : List Bool) (i : Nat) (inside : i < row.length) : Tape.ofRow row i = row[i] := by
  rw [ofRow_natCast, List.getD_eq_getElem?_getD, List.getElem?_eq_getElem inside, Option.getD_some]

theorem itemAt_getElem {α : Type} (items : List α) (i : Nat) (inside : i < items.length) :
    itemAt items i = .ok items[i] := by
  unfold itemAt
  simp only [Int.not_lt.mpr (Int.natCast_nonneg i), ↓reduceIte, Int.toNat_natCast, List.getElem?_eq_getElem inside]

/-- The stretch of the row on its tape is the row. -/
theorem window_ofRow (row : List Bool) : window (Tape.ofRow row) 0 row.length = row := by
  apply List.ext_getElem
  · rw [window_length]
  · intro i _ inside
    rw [window_getElem, Int.zero_add, ofRow_getElem row i inside]

theorem window_dead (g : Tape) (first : Int) (count : Nat) (dead : ∀ i < count, g (first + i) = false) :
    window g first count = List.replicate count false := by
  apply List.ext_getElem
  · rw [window_length, List.length_replicate]
  · intro i inside _
    rw [window_getElem, List.getElem_replicate]
    exact dead i (by rw [window_length] at inside; exact inside)

/-- A row with dead cells around it is a window of its tape. -/
theorem padded_eq_window (row : List Bool) (left right : Nat) :
    List.replicate left false ++ row ++ List.replicate right false =
      window (Tape.ofRow row) (-left) (left + row.length + right) := by
  rw [window_append, window_append]
  have before : window (Tape.ofRow row) (-left) left = List.replicate left false := by
    apply window_dead
    intro i lt
    exact ofRow_outside row _ (.inl (by omega))
  have within : window (Tape.ofRow row) (-left + (left : Int)) row.length = row := by
    rw [Int.add_left_neg, window_ofRow]
  have behind : window (Tape.ofRow row) (-left + ((left + row.length : Nat) : Int)) right =
      List.replicate right false := by
    apply window_dead
    intro i lt
    exact ofRow_outside row _ (.inr (by omega))
  rw [before, within, behind]

/-! ## Steps on windows -/

theorem steps_succ (ρ : Rule) (n : Nat) (g : Tape) : ρ.steps (n + 1) g = ρ.steps n (ρ.step g) := by
  induction n with
  | zero => rfl
  | succ n ih =>
    change ρ.step (ρ.steps (n + 1) g) = ρ.step (ρ.steps n (ρ.step g))
    rw [ih]

/-- A step on a window is the step of the tape, one cell shorter at both ends. -/
theorem reduce_window (ρ : Rule) (g : Tape) (first : Int) (count : Nat) :
    ρ.reduce (window g first (count + 2)) = window (ρ.step g) (first + 1) count := by
  induction count generalizing first with
  | zero => rfl
  | succ count ih =>
    have tail := ih (first + 1)
    simp only [window, Rule.reduce] at tail ⊢
    rw [tail]
    congr 1
    simp [Rule.step, Int.add_assoc]

theorem reduceTimes_window (ρ : Rule) (n : Nat) (g : Tape) (first : Int) (count : Nat) :
    ρ.reduceTimes n (window g first (count + 2 * n)) = window (ρ.steps n g) (first + n) count := by
  induction n generalizing g first with
  | zero => simp [Rule.reduceTimes, Rule.steps]
  | succ n ih =>
    have shorter : ρ.reduce (window g first (count + 2 * (n + 1))) = window (ρ.step g) (first + 1) (count + 2 * n) :=
      reduce_window ρ g first (count + 2 * n)
    rw [Rule.reduceTimes, shorter, ih, steps_succ]
    congr 1
    omega

/-- What is left of a cone is the cell below its middle. -/
theorem reduceTimes_cone (ρ : Rule) (d : Nat) (g : Tape) (first : Int) :
    ρ.reduceTimes d (window g first (2 * d + 1)) = [ρ.steps d g (first + d)] := by
  rw [Nat.add_comm, reduceTimes_window]
  rfl

theorem checkLength_ok (n : Nat) : checkLength (2 * n + 1) n = .ok () := by
  unfold checkLength
  rw [if_neg (by omega)]

/-- A window of `2 · d + 1` cells reduces to the cell `d` rows below its middle, on every tape that agrees with it. -/
theorem cellBelow_window {α : Type} [Cell α] (ρ : Rule) (cells : List α) (d : Nat) (g : Tape) (first : Int)
    (agree : cells.map Cell.alive = window g first (2 * d + 1)) :
    ρ.cellBelow cells d = .ok (ρ.steps d g (first + d)) := by
  have size : cells.length = 2 * d + 1 := by
    have same := congrArg List.length agree
    rwa [List.length_map, window_length] at same
  unfold Rule.cellBelow
  rw [size, checkLength_ok, Int.toNat_natCast, agree, reduceTimes_cone]
  rfl

theorem map_alive (cells : List Bool) : cells.map Cell.alive = cells := List.map_id cells

/-- A cell depends on no more of the row above than its cone. -/
theorem steps_congr (ρ : Rule) (n : Nat) (g h : Tape) (i j : Int)
    (agree : ∀ k < 2 * n + 1, g (i - n + (k : Nat)) = h (j - n + (k : Nat))) : ρ.steps n g i = ρ.steps n h j := by
  have same : window g (i - n) (2 * n + 1) = window h (j - n) (2 * n + 1) := (window_eq_iff ..).mpr agree
  have below := cellBelow_window ρ (window g (i - n) (2 * n + 1)) n g (i - n) (map_alive _)
  rw [cellBelow_window ρ _ n h (j - n) ((map_alive _).trans same)] at below
  simpa using (Except.ok.inj below).symm

/-! ## The reference grid -/

theorem mapM_ok {ε α β : Type} (f : α → Except ε β) (value : α → β) (items : List α)
    (runs : ∀ x ∈ items, f x = .ok (value x)) : items.mapM f = .ok (items.map value) := by
  induction items with
  | nil => rfl
  | cons x rest ih =>
    rw [List.mapM_cons, runs x (by simp), ih (fun y member => runs y (by simp [member]))]
    rfl

/-- The rows below the start of a tape, on the first cells of it. -/
def evolution (g : Tape) (rows cols : Nat) : List (List Bool) :=
  (List.range rows).map fun above => (List.range cols).map fun (col : Nat) => rule110.steps (above + 1) g col

/-- The cell of a grid in a row, the first one being row zero, and a column. -/
def cellOf (grid : List (List Bool)) (row col : Nat) : Option Bool := grid[row]?.bind fun cells => cells[col]?

theorem cellOf_map (f : Nat → Nat → Bool) {rows cols row col : Nat} (rowInside : row < rows)
    (colInside : col < cols) :
    cellOf ((List.range rows).map fun r => (List.range cols).map (f r)) row col = some (f row col) := by
  simp [cellOf, rowInside, colInside]

/-- The cells that a cell of the reference grid is reduced from, cut out of the row with dead cells around it. -/
def cone (row : List Bool) (left right depth col : Nat) : List Bool :=
  slice (List.replicate left false ++ row ++ List.replicate right false) (left + col - depth) (2 * depth + 1)

/-- With enough dead cells on both sides, the cone is a window of the tape, wherever the padding ends. -/
theorem cone_eq_window {row : List Bool} {left right depth col : Nat} (leftRoom : depth ≤ left)
    (rightRoom : depth ≤ right) (inside : col < row.length) :
    cone row left right depth col = window (Tape.ofRow row) (col - depth) (2 * depth + 1) := by
  have split : left + row.length + right =
      (left + col - depth) + (2 * depth + 1) + (right + row.length - (col + depth + 1)) := by omega
  rw [cone, padded_eq_window, split, slice_window]
  congr 1
  omega

theorem cone_cellBelow {row : List Bool} {left right depth col : Nat} (leftRoom : depth ≤ left)
    (rightRoom : depth ≤ right) (inside : col < row.length) :
    rule110.cellBelow (cone row left right depth col) depth = .ok (rule110.steps depth (Tape.ofRow row) col) := by
  rw [cone_eq_window leftRoom rightRoom inside,
    cellBelow_window rule110 _ depth (Tape.ofRow row) (col - depth) (map_alive _), Int.sub_add_cancel]

theorem evolvedGrid_cones (root : List Bool) (rows : Nat) :
    evolvedGrid root rows = (List.range rows).mapM fun above => (List.range root.length).mapM fun col =>
      rule110.cellBelow (cone root rows rows (above + 1) col) (above + 1 : Nat) := rfl

theorem evolvedGrid_eq (root : List Bool) (rows : Nat) :
    evolvedGrid root rows = .ok (evolution (Tape.ofRow root) rows root.length) := by
  rw [evolvedGrid_cones]
  apply mapM_ok
  intro above rowMember
  apply mapM_ok
  intro col colMember
  have rowInside := List.mem_range.mp rowMember
  have colInside := List.mem_range.mp colMember
  exact cone_cellBelow (by omega) (by omega) colInside

theorem evolution_take (g : Tape) {rows more : Nat} (le : rows ≤ more) (cols : Nat) :
    (evolution g more cols).take rows = evolution g rows cols := by
  rw [evolution, ← List.map_take, List.take_range, Nat.min_eq_left le, evolution]

/-- The reference grid of any row of cells exists and is the evolution of its tape. All cones are complete, the rows
    asked for in addition change nothing above them, and any padding that is wide enough gives the same cells. -/
theorem evolvedGrid_is_evolution (root : List Bool) (rows : Nat) :
    (evolvedGrid root rows = (List.range rows).mapM fun above => (List.range root.length).mapM fun col =>
      rule110.cellBelow (cone root rows rows (above + 1) col) (above + 1 : Nat)) ∧
    (∀ above < rows, ∀ col < root.length, (cone root rows rows (above + 1) col).length = 2 * (above + 1) + 1) ∧
    (∃ grid, evolvedGrid root rows = .ok grid ∧ grid.length = rows ∧ (∀ cells ∈ grid, cells.length = root.length) ∧
      (∀ above < rows, ∀ col < root.length,
        cellOf grid above col = some (rule110.steps (above + 1) (Tape.ofRow root) col)) ∧
      ∀ more, rows ≤ more → ∃ taller, evolvedGrid root more = .ok taller ∧ taller.take rows = grid) ∧
    ∀ left right depth col, depth ≤ left → depth ≤ right → col < root.length →
      rule110.cellBelow (cone root left right depth col) depth =
        .ok (rule110.steps depth (Tape.ofRow root) col) := by
  refine ⟨evolvedGrid_cones root rows, ?_, ⟨_, evolvedGrid_eq root rows, ?_, ?_, ?_, ?_⟩, ?_⟩
  · intro above rowInside col colInside
    rw [cone_eq_window (by omega) (by omega) colInside, window_length]
  · simp [evolution]
  · intro cells member
    obtain ⟨above, _, rfl⟩ := List.mem_map.mp member
    simp
  · intro above rowInside col colInside
    exact cellOf_map (fun above (col : Nat) => rule110.steps (above + 1) (Tape.ofRow root) col) rowInside colInside
  · intro more le
    exact ⟨_, evolvedGrid_eq root more, evolution_take _ le _⟩
  · intro left right depth col leftRoom rightRoom inside
    exact cone_cellBelow leftRoom rightRoom inside

/-- The cell left of the tape comes alive in the first row and kills its neighbour in the second one. -/
theorem evolvedGrid_is_evolution_at_edge :
    (∃ grid, evolvedGrid [true, true] 2 = .ok grid ∧ (1 < 2 ∧ 0 < [true, true].length) ∧
      cellOf grid 1 0 = some (rule110.steps 2 (Tape.ofRow [true, true]) 0)) ∧
    (2 ≤ 2 ∧ 2 ≤ 3 ∧ 0 < [true, true].length) ∧
    rule110.cellBelow (cone [true, true] 2 3 2 0) 2 = .ok (rule110.steps 2 (Tape.ofRow [true, true]) 0) ∧
    rule110.steps 2 (Tape.ofRow [true, true]) 0 = false ∧
    rule110.outcome false (rule110.steps 1 (Tape.ofRow [true, true]) 0)
      (rule110.steps 1 (Tape.ofRow [true, true]) 1) = true := by
  obtain ⟨_, _, ⟨grid, run, _, _, cells, _⟩, padding⟩ := evolvedGrid_is_evolution [true, true] 2
  refine ⟨⟨grid, run, by decide, cells 1 (by decide) 0 (by decide)⟩, by decide, ?_, by decide, by decide⟩
  exact padding 2 3 2 0 (by decide) (by decide) (by decide)

end TapeSheet.LightCone
