import TapeSheet.Proofs.LightCone

/-!
# The last living cell

Rule 110 carries life to the left only: what is dead from some cell on stays so (`steps_deadFrom`), and the last living
cell of a tape stays the last one in every row below (`steps_endsAt`). So every cell of every row is alive below some
row of cells; and since nothing comes alive on the right of the reference grid, each of its rows follows from the row
above it alone, but for the first cell (`life_moves_left`).
-/

namespace TapeSheet.Frontier
open TapeSheet.LightCone

/-- A tape is dead from an index on. -/
def DeadFrom (g : Tape) (first : Int) : Prop := ∀ i, first ≤ i → g i = false

/-- The last living cell of a tape. -/
def EndsAt (g : Tape) (last : Int) : Prop := g last = true ∧ ∀ i, last < i → g i = false

theorem outcome_last (left : Bool) : rule110.outcome left true false = true := by
  cases left <;> decide

theorem outcome_behind (left : Bool) : rule110.outcome left false false = false := by
  cases left <;> decide

theorem step_deadFrom {g : Tape} {first : Int} (dead : DeadFrom g first) : DeadFrom (rule110.step g) first := by
  -- What stands on the left of a cell only matters if the cell or its right neighbour is alive.
  intro i behind
  rw [Rule.step, dead i behind, dead (i + 1) (by omega), outcome_behind]

theorem steps_deadFrom {g : Tape} {first : Int} (dead : DeadFrom g first) (n : Nat) :
    DeadFrom (rule110.steps n g) first := by
  induction n with
  | zero => exact dead
  | succ n ih => exact step_deadFrom ih

theorem step_endsAt {g : Tape} {last : Int} (ends : EndsAt g last) : EndsAt (rule110.step g) last := by
  obtain ⟨alive, dead⟩ := ends
  refine ⟨?_, step_deadFrom dead⟩
  rw [Rule.step, alive, dead (last + 1) (by omega), outcome_last]

theorem steps_endsAt {g : Tape} {last : Int} (ends : EndsAt g last) (n : Nat) : EndsAt (rule110.steps n g) last := by
  induction n with
  | zero => exact ends
  | succ n ih => exact step_endsAt ih

/-- The row with one living cell. -/
def single (cols col : Nat) : List Bool := (List.range cols).map (· == col)

theorem single_length (cols col : Nat) : (single cols col).length = cols := by
  simp [single]

theorem single_endsAt {cols col : Nat} (inside : col < cols) : EndsAt (Tape.ofRow (single cols col)) col := by
  constructor
  · rw [ofRow_getElem _ col (by rw [single_length]; exact inside)]
    simp [single]
  · intro i behind
    obtain ⟨i, rfl⟩ := Int.eq_ofNat_of_zero_le (by omega : 0 ≤ i)
    by_cases onRow : i < (single cols col).length
    · rw [ofRow_getElem _ i onRow]
      simp [single]
      omega
    · exact ofRow_outside _ _ (.inr (by omega))

theorem steps_single {cols col : Nat} (inside : col < cols) (row : Nat) :
    rule110.steps row (Tape.ofRow (single cols col)) col = true :=
  (steps_endsAt (single_endsAt inside) row).1

/-! ## Rows of the reference grid -/

/-- The last living cell of a row of cells. -/
def IsLast (cells : List Bool) (last : Nat) : Prop :=
  cells[last]? = some true ∧ ∀ col, last < col → cells[col]? ≠ some true

/-- The cell of a grid in a row and a column; what the row does not have is dead. -/
def shown (grid : List (List Bool)) (row col : Nat) : Bool := (cellOf grid row col).getD false

theorem ofRow_deadFrom (root : List Bool) : DeadFrom (Tape.ofRow root) root.length :=
  fun i behind => ofRow_outside root i (.inr behind)

theorem ofRow_eq_true (root : List Bool) (i : Nat) : Tape.ofRow root i = true ↔ root[i]? = some true := by
  rw [ofRow_natCast, List.getD_eq_getElem?_getD]
  cases root[i]? <;> simp

theorem ofRow_deadBehind {root : List Bool} {first : Nat} (dead : ∀ col, first ≤ col → root[col]? ≠ some true) :
    DeadFrom (Tape.ofRow root) first := by
  intro i behind
  obtain ⟨i, rfl⟩ := Int.eq_ofNat_of_zero_le (by omega : 0 ≤ i)
  rw [Bool.eq_false_iff, Ne, ofRow_eq_true]
  exact dead i (by omega)

theorem deadFrom_of_dead {root : List Bool} (dead : ∀ alive ∈ root, alive = false) (first : Nat) :
    DeadFrom (Tape.ofRow root) first := by
  refine ofRow_deadBehind fun col _ living => ?_
  cases dead true (List.mem_of_getElem? living)

theorem endsAt_of_isLast {root : List Bool} {last : Nat} (isLast : IsLast root last) :
    EndsAt (Tape.ofRow root) last :=
  ⟨(ofRow_eq_true root last).mpr isLast.1, ofRow_deadBehind isLast.2⟩

theorem isLast_of_endsAt {g : Tape} {cols last : Nat} (inside : last < cols) (ends : EndsAt g last) :
    IsLast ((List.range cols).map fun (col : Nat) => g col) last := by
  obtain ⟨alive, dead⟩ := ends
  constructor
  · simp [inside, alive]
  · intro col behind cell
    obtain ⟨_, same⟩ := List.getElem?_eq_some_iff.mp cell
    rw [List.getElem_map, List.getElem_range, dead col (by omega)] at same
    cases same

section History
variable (root : List Bool) {rows row col : Nat}

/-- The root row and the rows below it are the first rows of the evolution, cell by cell. -/
theorem cellOf_history (rowInside : row ≤ rows) (colInside : col < root.length) :
    cellOf (root :: evolution (Tape.ofRow root) rows root.length) row col =
      some (rule110.steps row (Tape.ofRow root) col) := by
  cases row with
  | zero =>
    have cell : rule110.steps 0 (Tape.ofRow root) col = root[col] := ofRow_getElem root col colInside
    rw [cell]
    exact List.getElem?_eq_getElem colInside
  | succ above =>
    exact cellOf_map (fun above (col : Nat) => rule110.steps (above + 1) (Tape.ofRow root) col) rowInside colInside

theorem cellOf_beyond (beyond : root.length ≤ col) :
    cellOf (root :: evolution (Tape.ofRow root) rows root.length) row col = none := by
  have width : ∀ cells ∈ root :: evolution (Tape.ofRow root) rows root.length, cells.length = root.length := by
    simp [evolution]
  unfold cellOf
  cases found : (root :: evolution (Tape.ofRow root) rows root.length)[row]? with
  | none => rfl
  | some cells =>
    have size := width cells (List.mem_of_getElem? found)
    exact List.getElem?_eq_none (by omega)

/-- On the right of the tape nothing comes alive, so reading it as dead is reading the evolution. -/
theorem shown_history (rowInside : row ≤ rows) :
    shown (root :: evolution (Tape.ofRow root) rows root.length) row col =
      rule110.steps row (Tape.ofRow root) col := by
  unfold shown
  by_cases colInside : col < root.length
  · rw [cellOf_history root rowInside colInside, Option.getD_some]
  · rw [cellOf_beyond root (by omega), steps_deadFrom (ofRow_deadFrom root) row col (by omega), Option.getD_none]

end History

/-- In the reference grid of any row of cells all rows have their last living cell where the root row has it, or no
    living cell if it has none, and every cell but the first one of a row follows by the rule from its three neighbours
    in the row above, of which the one on the right of the tape is dead. -/
theorem life_moves_left (root : List Bool) (rows : Nat) :
    ∃ grid, evolvedGrid root rows = .ok grid ∧ grid.length = rows ∧ (∀ cells ∈ grid, cells.length = root.length) ∧
      (∀ last, IsLast root last → ∀ cells ∈ grid, IsLast cells last) ∧
      ((∀ alive ∈ root, alive = false) → ∀ cells ∈ grid, ∀ alive ∈ cells, alive = false) ∧
      ∀ row col, row < rows → col + 1 < root.length →
        cellOf (root :: grid) (row + 1) (col + 1) =
          some (rule110.apply (shown (root :: grid) row col) (shown (root :: grid) row (col + 1))
            (shown (root :: grid) row (col + 2))) := by
  refine ⟨_, evolvedGrid_eq root rows, by simp [evolution], ?_, ?_, ?_, ?_⟩
  · intro cells member
    obtain ⟨above, _, rfl⟩ := List.mem_map.mp member
    simp
  · intro last isLast cells member
    obtain ⟨above, _, rfl⟩ := List.mem_map.mp member
    obtain ⟨inside, _⟩ := List.getElem?_eq_some_iff.mp isLast.1
    exact isLast_of_endsAt inside (steps_endsAt (endsAt_of_isLast isLast) (above + 1))
  · intro dead cells member alive inRow
    obtain ⟨above, _, rfl⟩ := List.mem_map.mp member
    obtain ⟨col, _, rfl⟩ := List.mem_map.mp inRow
    exact steps_deadFrom (deadFrom_of_dead dead col) (above + 1) col (Int.le_refl _)
  · intro row col rowInside colInside
    rw [cellOf_history root rowInside colInside, shown_history root (by omega), shown_history root (by omega),
      shown_history root (by omega)]
    have left : ((col + 1 : Nat) : Int) - 1 = col := by omega
    have right : ((col + 1 : Nat) : Int) + 1 = (col + 2 : Nat) := by omega
    rw [Rule.steps, Rule.step, left, right]
    rfl

/-- The last cell of a row in front of a dead one stays alive, and the first cell does not follow the rule: life from
    the left of the tape kills it in the second row. A dead row stays dead. -/
theorem life_moves_left_at_edges :
    (IsLast [true, true, false] 1 ∧ (1 < 2 ∧ 1 + 1 < [true, true, false].length) ∧
      ∃ grid, evolvedGrid [true, true, false] (2 : Nat) = .ok grid ∧ (∀ cells ∈ grid, IsLast cells 1) ∧
        cellOf ([true, true, false] :: grid) 2 2 =
          some (rule110.apply (shown ([true, true, false] :: grid) 1 1) (shown ([true, true, false] :: grid) 1 2)
            (shown ([true, true, false] :: grid) 1 3)) ∧
        cellOf ([true, true, false] :: grid) 2 0 = some false ∧
        rule110.apply false (shown ([true, true, false] :: grid) 1 0)
          (shown ([true, true, false] :: grid) 1 1) = true) ∧
    (∀ alive ∈ [false, false], alive = false) ∧
      ∃ grid, evolvedGrid [false, false] (1 : Nat) = .ok grid ∧ ∀ cells ∈ grid, ∀ alive ∈ cells, alive = false := by
  have isLast : IsLast [true, true, false] 1 := by
    refine ⟨rfl, fun col behind => ?_⟩
    match col, behind with
    | 2, _ => decide
    | _ + 3, _ => simp
  have dead : ∀ alive ∈ [false, false], alive = false := by decide
  obtain ⟨grid, run, _, _, last, _, rule⟩ := life_moves_left [true, true, false] 2
  obtain ⟨still, runStill, _, _, _, stays, _⟩ := life_moves_left [false, false] 1
  have whole : grid = [[true, true, false], [false, true, false]] := Except.ok.inj (run.symm.trans rfl)
  refine ⟨⟨isLast, by decide, grid, run, last 1 isLast, rule 1 1 (by decide) (by decide), ?_, ?_⟩,
    dead, still, runStill, stays dead⟩
  · rw [whole]
    rfl
  · rw [whole]
    rfl

end TapeSheet.Frontier
