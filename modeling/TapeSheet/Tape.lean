import TapeSheet.Rule

/-!
# Tapes

Tapes without ends as functions of all integers, the step of a rule on them, and the tape that a finite row of cells
stands for: the row itself, with dead cells on both sides.
-/

namespace TapeSheet

/-- A tape without ends. -/
abbrev Tape := Int → Bool

namespace Rule

/-- One step of a rule on all cells at once. -/
def step (ρ : Rule) (g : Tape) : Tape := fun i => ρ.outcome (g (i - 1)) (g i) (g (i + 1))

/-- A number of steps of a rule. -/
def steps (ρ : Rule) : Nat → Tape → Tape
  | 0, g => g
  | n + 1, g => ρ.step (ρ.steps n g)

end Rule

/-- A row of cells starting at zero, with dead cells on both sides. -/
def Tape.ofRow (row : List Bool) : Tape
  | .ofNat i => row.getD i false
  | .negSucc _ => false

/-- Least number that is too large for an index. -/
def indexLimit : Nat := Nat.pow 2 63

/-- The fault of an index where nothing stands. -/
def indexFault (index : Int) : Fault :=
  if index < -(indexLimit : Int) ∨ (indexLimit : Int) ≤ index then .farIndex else .index

/-- The item at an index; a negative index counts from the end. -/
def itemAt {α : Type} (items : List α) (index : Int) : Except Fault α :=
  let place := if index < 0 then index + items.length else index
  if place < 0 then .error (indexFault index)
  else match items[place.toNat]? with
    | some item => .ok item
    | none => .error (indexFault index)

end TapeSheet
