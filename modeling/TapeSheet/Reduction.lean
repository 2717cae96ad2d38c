import TapeSheet.Tape

/-!
# Reducing a window to one cell

The cell `depth` rows below the middle of a window of `2 · depth + 1` cells, in two ways: step by step, each step
leaving a window two cells shorter, and by unfolding the cell's definition down to the window.
-/

namespace TapeSheet

/-- One step on a window: the rule on every three neighbouring cells. -/
def Rule.reduce (ρ : Rule) : List Bool → List Bool
  | l :: c :: r :: rest => ρ.outcome l c r :: ρ.reduce (c :: r :: rest)
  | _ => []

/-- A number of steps on a window. -/
def Rule.reduceTimes (ρ : Rule) : Nat → List Bool → List Bool
  | 0, window => window
  | n + 1, window => ρ.reduceTimes n (ρ.reduce window)

/-- A window can be reduced to one cell in `depth` steps only if it has `2 · depth + 1` cells. -/
def checkLength (length : Nat) (depth : Int) : Except Fault Unit :=
  if depth < 0 ∨ (length : Int) ≠ 2 * depth + 1 then .error (.shape (.window length depth)) else .ok ()

/-- The cell below the middle of a window, step by step. -/
def Rule.cellBelow {α : Type} [Cell α] (ρ : Rule) (window : List α) (depth : Int) : Except Fault Bool :=
  match checkLength window.length depth with
  | .error fault => .error fault
  | .ok () => itemAt (ρ.reduceTimes depth.toNat (window.map Cell.alive)) 0

/-- The cell `row` rows below the cell `col` of a window, by the three cells above it. -/
def Rule.unfoldCell {α : Type} [Cell α] (ρ : Rule) (window : List α) : Nat → Int → Except Fault Bool
  | 0, col => (itemAt window col).map Cell.alive
  | row + 1, col => do
    let left ← ρ.unfoldCell window row (col - 1)
    let center ← ρ.unfoldCell window row col
    let right ← ρ.unfoldCell window row (col + 1)
    pure (ρ.outcome left center right)

/-- The cell below the middle of a window, by unfolding. -/
def Rule.unfold {α : Type} [Cell α] (ρ : Rule) (window : List α) (depth : Int) : Except Fault Bool :=
  match checkLength window.length depth with
  | .error fault => .error fault
  | .ok () => ρ.unfoldCell window depth.toNat depth

end TapeSheet
