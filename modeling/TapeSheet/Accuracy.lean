import TapeSheet.Binary64
import TapeSheet.Rendering

/-!
# How right a rendering is

The evolution of a root row as the reference for a rendered grid, and the share of cells that two grids agree on.
-/

namespace TapeSheet

/-- Cells `from … from + count - 1` of a row. -/
def slice {α : Type} (row : List α) (first count : Nat) : List α := (row.drop first).take count

/-- The rows below a root row, every cell reduced on its own from the root row with dead cells around it. -/
def evolvedGrid (root : List Bool) (rows : Int) : Except Fault (List (List Bool)) :=
  let rows := rows.toNat
  let padded := List.replicate rows false ++ root ++ List.replicate rows false
  (List.range rows).mapM fun above =>
    (List.range root.length).mapM fun col =>
      rule110.cellBelow (slice padded (rows + col - (above + 1)) (2 * (above + 1) + 1)) (above + 1 : Nat)

/-- Number of cells of a grid. -/
def cellCount {α : Type} : List (List α) → Nat
  | [] => 0
  | row :: rest => row.length + cellCount rest

/-- Cells in which two rows differ; a cell that only one row has counts. -/
def rowDifference {α : Type} [BEq α] : List α → List α → Nat
  | [], others => others.length
  | cells, [] => cells.length
  | x :: xs, y :: ys => (if x == y then 0 else 1) + rowDifference xs ys

/-- Cells in which two grids differ; a row that only one grid has counts with all its cells. -/
def gridDifference {α : Type} [BEq α] : List (List α) → List (List α) → Nat
  | [], others => cellCount others
  | rows, [] => cellCount rows
  | row :: rows, other :: others => rowDifference row other + gridDifference rows others

/-- A share of right cells: one minus the fraction of wrong ones, at least zero. -/
structure Score where
  wrong : Nat
  cells : Nat
  deriving DecidableEq

namespace Score

/-- The score of a grid without cells. -/
def zero : Score := ⟨1, 1⟩

/-- A score in double precision: the fraction is rounded, then its difference from one. -/
def double (s : Score) : Binary64 :=
  let share := (Binary64.ofNat 1).add (Binary64.ofQuotient false s.wrong s.cells).neg
  if (Binary64.finite false 0).lt share then share else .finite false 0

/-- No cell is wrong, as far as double precision tells. -/
def isPerfect (s : Score) : Bool := !s.double.lt (Binary64.ofNat 1)

end Score

/-- Share of cells rendered with the expected state. A row or cell that only one grid has counts as wrong. -/
def agreement {α : Type} [BEq α] (expected rendered : List (List α)) : Score :=
  if cellCount expected = 0 then Score.zero
  else ⟨gridDifference expected rendered, max (cellCount expected) (cellCount rendered)⟩

/-- Accuracy of the lit rows down to the compiled depth against the evolution of the root row. -/
def Sheet.scoreOn (s : Sheet) (root : List Bool) : Except Fault Score := do
  let lit ← s.litGrid root
  let expected ← evolvedGrid root s.maxRow
  pure (agreement expected (lit.take s.maxRow.toNat))

end TapeSheet
