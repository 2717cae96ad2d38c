import TapeSheet.Sheet

/-!
# What a page shows

The cells that the rules of a sheet light on a root row, and the grid as text.
-/

namespace TapeSheet

/-- Targets of the rules that match, in the order of the rules. -/
def heldTargets (root : List Bool) : List SheetRule → List Target → Except Fault (List Target)
  | [], found => .ok found.reverse
  | rule :: rest, found =>
    match rule.holdsOn? root with
    | .error fault => .error fault
    | .ok matched => heldTargets root rest (if matched then rule.target :: found else found)

namespace Sheet

/-- The cells with at least one rule that matches, each once. -/
def litCells (s : Sheet) (root : List Bool) : Except Fault (List Target) :=
  if (root.length : Int) ≠ s.cols then .error (.range (.tapeLength root.length s.cols))
  else (heldTargets root s.rules []).map List.eraseDups

/-- All rows of the grid below the root. Rows without rules stay dead. -/
def litGrid (s : Sheet) (root : List Bool) : Except Fault (List (List Bool)) :=
  (s.litCells root).map fun active =>
    (List.range s.rows.toNat).map fun (row : Nat) =>
      (List.range s.cols.toNat).map fun (col : Nat) => active.contains ⟨row + 1, col⟩

end Sheet

/-- One row of cells as text. -/
def rowText (alive dead : Text) (row : List Bool) : Text :=
  ⟨row.flatMap fun cell => if cell then alive.letters else dead.letters⟩

/-- A root row and the grid below it, a line for each row. -/
def gridText (alive dead : Text) (root : List Bool) (grid : List (List Bool)) : Text :=
  Text.glued "\n" ((root :: grid).map (rowText alive dead))

end TapeSheet
