import TapeSheet.CellRule
import TapeSheet.Value

/-!
# Sheets

A grid with the rules that light its cells, and the sheet of Rule 110 down to a depth.
-/

namespace TapeSheet

/-- A grid of `rows` and `cols` with rules for the rows down to `maxRow`. -/
structure Sheet where
  rows : Int
  cols : Int
  maxRow : Int
  rules : List SheetRule
  note : Option Text

namespace Sheet

/-- Some rows have no rules. -/
def isCut (s : Sheet) : Bool := s.rows > s.maxRow

/-- The sheet, if its note names no row with too many digits. -/
def checkNote (s : Sheet) : Except Fault Sheet :=
  if s.note.isSome then Decimal.ifWritable [s.rows] s else .ok s

/-- The sheet without the rules for some targets. -/
def without (s : Sheet) (lost : List Target) : Sheet :=
  { s with rules := s.rules.filter fun rule => !lost.contains rule.target }

end Sheet

/-- Deepest row that is compiled. -/
def maxCompiledRow : Nat := 6

/-- Note on the rows that are left out. -/
def cutNote (rows cap : Int) : String :=
  "Rows " ++ Decimal.ofInt (cap + 1) ++ "-" ++ Decimal.ofInt rows
    ++ " are not compiled; enumerating their input combinations beyond row " ++ Decimal.ofInt cap
    ++ " is too large for a stylesheet."

/-- The note on the rows that are left out, if none of them has too many digits. -/
def cutNote? (rows cap : Int) : Except Fault String :=
  Decimal.ifWritable [cap + 1, rows, cap] (cutNote rows cap)

/-- The rules of assignments that can be reached, in order. -/
def rulesInReach (window : Window) (target : Target) (cols : Int) :
    List Assignment → Except Fault (List SheetRule)
  | [] => .ok []
  | assignment :: rest =>
    match ruleForAssignment window assignment target cols with
    | .error fault => .error fault
    | .ok (.outOfReach _) => rulesInReach window target cols rest
    | .ok (.found rule) => (rulesInReach window target cols rest).map (rule :: ·)

/-- The rules of one cell, in the order of its assignments. -/
def cellRules (row col cols : Int) : Except Fault (List SheetRule) :=
  match surveyCell row col with
  | .error fault => .error fault
  | .ok cell => rulesInReach cell.window ⟨row, col⟩ cols cell.alive

/-- The rules of all cells of a row, from left to right. The assignments that make a cell alive are found once. -/
def rowRules (row cols : Nat) : Except Fault (List SheetRule) :=
  match livingAssignments row with
  | .error fault => .error fault
  | .ok alive =>
    ((List.range cols).mapM fun (col : Nat) =>
      rulesInReach ⟨col - row, col + row⟩ ⟨row, col⟩ cols alive).map List.flatten

/-- The rules of all cells of a grid down to a depth, and a note if the grid goes deeper. -/
def sheetOfSizes (rows cols cap : Nat) : Except Fault Sheet :=
  let depth := min rows cap
  ((List.range depth).mapM fun above => rowRules (above + 1) cols).map fun rules =>
    { rows := rows
      cols := cols
      maxRow := depth
      rules := rules.flatten
      note := if rows > cap then some (Text.ofString (cutNote rows cap)) else none }

/-- A positive whole number. -/
def positive (key : String) : Value → Except Fault Nat
  | .int n => if n ≤ 0 then .error (.config (.notPositive key n)) else .ok n.toNat
  | got => .error (.config (.notInteger key got))

/-- The sheet of a grid whose sizes are still to be checked, whether its note can be written or not. -/
def compileSheet (rows cols cap : Value) : Except Fault Sheet := do
  let rows ← positive "rows" rows
  let cols ← positive "cols" cols
  let cap ← positive "cap" cap
  if cap > maxCompiledRow then throw (.config (.capTooLarge maxCompiledRow cap))
  sheetOfSizes rows cols cap

/-- The sheet of a grid whose sizes are still to be checked, if its note can be written. -/
def compiled (rows cols cap : Value) : Except Fault Sheet := (compileSheet rows cols cap).bind Sheet.checkNote

end TapeSheet
