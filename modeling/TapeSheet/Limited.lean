import TapeSheet.Accuracy
import TapeSheet.Preset
import TapeSheet.Sheet

/-!
# Operations within limits

The operations that make lists of a length that is asked for, on a machine of limited size. What cannot be counted or
stored is refused before any of it is made; all else is as without limits.
-/

namespace TapeSheet.Limited

/-! ## Limits -/

/-- Least length of a list for which there is no room. -/
def lengthLimit : Nat := Nat.pow 2 36

/-- Refuses a list that is too long. A list of negative length is empty. -/
def checkRoom (length : Int) : Except Fault Unit :=
  if length < -(indexLimit : Int) ∨ (indexLimit : Int) ≤ length then .error (.overflow .size)
  else if (lengthLimit : Int) ≤ length then .error (.room .list)
  else .ok ()

/-- Bits of a number that one word holds. -/
def wordBits : Nat := 30

/-- Most words of a number. -/
def wordLimit : Nat := (Nat.pow 2 63 - 25) / 4

/-- Number of words for a power of two. -/
def wordCount (exponent : Nat) : Nat := exponent / wordBits + (if exponent % wordBits = 0 then 1 else 2)

/-- Least width whose assignments are so many that there is no room for their number. -/
def widthLimit : Nat := Nat.pow 2 40

/-- Refuses a width whose assignments cannot be counted. -/
def checkWidth (width : Int) : Except Fault Unit :=
  if wordLimit < wordCount width.toNat then .error (.overflow .digits)
  else if widthLimit ≤ width.toNat then .error (.room .list)
  else .ok ()

/-- Least width for whose codes, in words of four bytes, there is no room. -/
def codesLimit : Nat := 36

/-- Least width for whose assignments there is no room. The codes of all smaller widths fit into four bytes. -/
def matrixLimit : Nat := 33

/-- Refuses a width whose codes or assignments cannot be listed. -/
def checkCodes (width : Int) : Except Fault Unit := do
  checkWidth width
  let width := width.toNat
  if 63 ≤ width then throw (.range .matrixTooLong)
  if 61 ≤ width then throw (.range .matrixTooBig)
  if codesLimit ≤ width then throw (.room (.codes width))
  if matrixLimit ≤ width then throw (.room (.matrix width))

/-- Deepest nesting of definitions that is unfolded. -/
def nestingLimit : Nat := 900

/-! ## Assignments -/

/-- The first `count` assignments of a width; where none is asked for the width does not matter. -/
def firstAssignments (count : Nat) (width : Int) : Except Fault (List Assignment) := do
  if count = 0 then pure []
  else
    checkWidth width
    TapeSheet.firstAssignments count width

/-- All assignments of a width as the rows of a matrix. -/
def codeMatrix (width : Int) : Except Fault (List Assignment) := do
  checkCodes width
  TapeSheet.codeMatrix width

/-- For every assignment of a row's windows, whether it makes the cell alive. -/
def livingMask (row : Int) : Except Fault (List Bool) := do
  checkCodes (2 * row + 1)
  TapeSheet.livingMask row

/-- The assignments of a row's windows that make the cell alive. -/
def livingAssignments (row : Int) : Except Fault (List Assignment) := do
  checkCodes (2 * row + 1)
  TapeSheet.livingAssignments row

/-- Enumerates the assignments of a derived cell. -/
def surveyCell (row col : Int) : Except Fault Survey := do
  checkCodes (2 * row + 1)
  TapeSheet.surveyCell row col

/-- The rules of one cell. -/
def cellRules (row col cols : Int) : Except Fault (List SheetRule) := do
  checkCodes (2 * row + 1)
  TapeSheet.cellRules row col cols

/-! ## Cells -/

/-- The cell below the middle of a window, by unfolding. -/
def unfold {α : Type} [Cell α] (ρ : Rule) (window : List α) (depth : Int) : Except Fault Bool := do
  checkLength window.length depth
  if (nestingLimit : Int) ≤ depth then throw (.nesting .unfolding)
  ρ.unfold window depth

/-- The rows below a root row. -/
def evolvedGrid (root : List Bool) (rows : Int) : Except Fault (List (List Bool)) := do
  checkRoom rows
  TapeSheet.evolvedGrid root rows

/-- Accuracy of the lit rows down to the compiled depth. -/
def scoreOn (s : Sheet) (root : List Bool) : Except Fault Score :=
  match checkRoom s.maxRow with
  | .ok () => s.scoreOn root
  | .error fault =>
    match s.litGrid root with
    | .error earlier => .error earlier
    | .ok _ => .error fault

/-- The root row of `cols` cells for the preset with a key. -/
def presetRow (key : Value) (cols seed : Int) : Except Fault (List Bool) :=
  match checkRoom cols with
  | .ok () => TapeSheet.presetRow key cols seed
  | .error fault =>
    match TapeSheet.presetRow key 1 0 with
    | .error earlier => .error earlier
    | .ok _ => if cols ≤ 0 then TapeSheet.presetRow key cols seed else .error fault

end TapeSheet.Limited
