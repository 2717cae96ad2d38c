import TapeSheet.Selector
import TapeSheet.Window

/-!
# From assignments to rules

An assignment of a window becomes a rule that tests the part of the window on the tape. Cells beyond the tape are
always dead, so a dead one needs no test, and an assignment with a living one is out of reach.
-/

namespace TapeSheet

/-- What an assignment becomes. -/
inductive CellRule
  | found (rule : SheetRule)
  | outOfReach (index : Int)

/-- Predicates for the bits of a window that starts at an index, or the first index beyond the tape where a living
cell is needed. -/
def predicatesFrom (cols : Int) : Int → Assignment → Except Int (List Predicate)
  | _, [] => .ok []
  | index, bit :: rest =>
    if 0 ≤ index ∧ index < cols then (predicatesFrom cols (index + 1) rest).map (⟨index, bit⟩ :: ·)
    else if bit then .error index
    else predicatesFrom cols (index + 1) rest

/-- Turns an assignment of a window into a rule for a target on a tape of `cols` cells. -/
def ruleForAssignment (window : Window) (assignment : Assignment) (target : Target) (cols : Int) :
    Except Fault CellRule :=
  if (assignment.length : Int) ≠ window.width then
    .error (.shape (.assignment assignment.length window.lo window.hi))
  else
    match predicatesFrom cols window.lo assignment with
    | .ok predicates => .ok (.found ⟨predicates, target⟩)
    | .error index => .ok (.outOfReach index)

end TapeSheet
