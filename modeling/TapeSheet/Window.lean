import TapeSheet.Reduction.Batch

/-!
# Windows and their assignments

The stretch of the root row that a derived cell depends on, all ways to fill it in the order of binary counting, and
the ways that make the cell alive.
-/

namespace TapeSheet

/-- A stretch of the root row, both ends included. -/
structure Window where
  lo : Int
  hi : Int
  deriving DecidableEq

namespace Window

/-- Number of cells; the formula is kept where the ends are out of order. -/
def width (w : Window) : Int := w.hi - w.lo + 1

/-- The first `count` indices of a window from left to right, or all if there are fewer. -/
def firstIndices (w : Window) (count : Nat) : List Int :=
  (List.range (min count w.width.toNat)).map fun (i : Nat) => w.lo + i

/-- All indices of a window from left to right. -/
def indices (w : Window) : List Int := (List.range w.width.toNat).map fun (i : Nat) => w.lo + i

/-- The window of a derived cell reaches as many cells to both sides as the cell is rows below the root. -/
def ofCell (row col : Int) : Except Fault Window :=
  if row < 1 then .error (.range (.underivedRow row)) else .ok ⟨col - row, col + row⟩

end Window

/-! ## Assignments -/

/-- One way to fill a window, from left to right. -/
abbrev Assignment := List Bool

/-- The assignment that spells a code in binary. -/
def spelled (width code : Nat) : Assignment :=
  (List.range width).map fun place => (code >>> (width - 1 - place)) % 2 == 1

/-- A number of cells that can be filled. -/
def fillable (width : Int) : Except Fault Nat :=
  if width < 0 then .error (.range .negativeWidth) else .ok width.toNat

/-- The first `count` assignments of a width, or all if there are fewer. -/
def firstAssignments (count : Nat) (width : Int) : Except Fault (List Assignment) :=
  (fillable width).map fun width => (List.range (min count (Nat.pow 2 width))).map (spelled width)

/-- All assignments of a width, in the order of their codes. -/
def assignments (width : Int) : Except Fault (List Assignment) :=
  (fillable width).map fun width => (List.range (Nat.pow 2 width)).map (spelled width)

/-- The column of a matrix of codes at one place of the width. -/
def codeColumn (width place : Nat) : List Bool :=
  (List.range (Nat.pow 2 width)).map fun code => (code >>> (width - 1 - place)) &&& 1 != 0

/-- All assignments of a width as the rows of a matrix that is built column by column. -/
def codeMatrix (width : Int) : Except Fault (List Assignment) :=
  (fillable width).map fun width =>
    (List.range width).foldr (fun place rows => List.zipWith List.cons (codeColumn width place) rows)
      (List.replicate (Nat.pow 2 width) [])

/-! ## Living assignments -/

/-- For every assignment of a row's windows, whether it makes the cell alive. One mask serves all columns. -/
def livingMask (row : Int) : Except Fault (List Bool) :=
  match codeMatrix (2 * row + 1) with
  | .error fault => .error fault
  | .ok matrix => rule110.cellsBelow matrix row

/-- The assignments of a row's windows that make the cell alive, in order. -/
def livingAssignments (row : Int) : Except Fault (List Assignment) :=
  match codeMatrix (2 * row + 1), livingMask row with
  | .error fault, _ => .error fault
  | _, .error fault => .error fault
  | .ok matrix, .ok mask => .ok (((matrix.zip mask).filter (·.2)).map (·.1))

/-- What is known of one derived cell. -/
structure Survey where
  window : Window
  alive : List Assignment
  deadCount : Nat

/-- Number of assignments, those that leave the cell dead included. -/
def Survey.total (e : Survey) : Nat := e.alive.length + e.deadCount

/-- Enumerates the assignments of a derived cell. -/
def surveyCell (row col : Int) : Except Fault Survey :=
  match Window.ofCell row col with
  | .error fault => .error fault
  | .ok window =>
    (livingAssignments row).map fun (alive : List Assignment) =>
      ⟨window, alive, Nat.pow 2 window.width.toNat - alive.length⟩

end TapeSheet
