import TapeSheet.Proofs.Compilation
import TapeSheet.Proofs.Reach
import Mathlib.Algebra.BigOperators.Group.List.Basic
import Mathlib.Algebra.GroupWithZero.Nat

/-!
# Moved cells

The rules of a cell depend on where its window lies on the row only by which of the window's cells are on the row. Two
windows that agree on this give the same rules up to their places (`rulesOf_moved`): so do the windows of all inner
cells, whose rules none of the ends of the row can take away (`rulesOf_inner_length`), and the windows near an end of a
row and of a wider one, measured from that end. A row that grows by a cell therefore gains the rules of one inner cell.
-/

namespace TapeSheet.Translation
open TapeSheet.LightCone TapeSheet.Enumeration TapeSheet.Cover TapeSheet.Compilation TapeSheet.Reach

/-! ## Moving -/

/-- A predicate about the cell at a distance. -/
def movePredicate (distance : Int) (p : Predicate) : Predicate := ⟨p.index + distance, p.asserted⟩

/-- A rule about cells at a distance, for the cell at that distance. -/
def moveRule (distance : Int) (rule : SheetRule) : SheetRule :=
  ⟨rule.predicates.map (movePredicate distance), ⟨rule.target.row, rule.target.col + distance⟩⟩

theorem moveRule_zero (rule : SheetRule) : moveRule 0 rule = rule := by
  have same : movePredicate 0 = id := by
    funext p
    simp [movePredicate]
  simp [moveRule, same]

/-- Two windows of `width` cells, the second one at a distance from the first, have cells on their rows in the same
    places. -/
def Alike (width : Nat) (first cols distance cols' : Int) : Prop :=
  ∀ place : Nat, place < width →
    (0 ≤ first + place ∧ first + place < cols ↔ 0 ≤ first + distance + place ∧ first + distance + place < cols')

theorem alike_tail {width : Nat} {first cols distance cols' : Int} (alike : Alike (width + 1) first cols distance cols') :
    Alike width (first + 1) cols distance cols' := by
  intro place inside
  have next := alike (place + 1) (by omega)
  push_cast at next
  omega

theorem predicatesFrom_moved {first cols distance cols' : Int} {cells : Assignment}
    (alike : Alike cells.length first cols distance cols') :
    predicatesFrom cols' (first + distance) cells =
      match predicatesFrom cols first cells with
      | .ok predicates => .ok (predicates.map (movePredicate distance))
      | .error index => .error (index + distance) := by
  induction cells generalizing first with
  | nil => rfl
  | cons bit rest ih =>
    have head := alike 0 (Nat.succ_pos _)
    have tail := ih (alike_tail alike)
    rw [Int.natCast_zero, Int.add_zero, Int.add_zero] at head
    rw [Int.add_right_comm] at tail
    rw [predicatesFrom, predicatesFrom, tail]
    by_cases onRow : 0 ≤ first ∧ first < cols
    · rw [if_pos onRow, if_pos (head.mp onRow)]
      cases predicatesFrom cols (first + 1) rest <;> rfl
    · rw [if_neg onRow, if_neg (fun moved => onRow (head.mpr moved))]
      cases bit <;> rfl

theorem emitted_moved {first cols distance cols' : Int} {cells : Assignment}
    (alike : Alike cells.length first cols distance cols') (row col : Int) :
    emitted? cols' ⟨row, col + distance⟩ (first + distance) cells =
      (emitted? cols ⟨row, col⟩ first cells).map (moveRule distance) := by
  unfold emitted?
  rw [predicatesFrom_moved alike]
  cases predicatesFrom cols first cells <;> rfl

theorem rulesOf_moved {row : Nat} {col cols distance cols' : Int}
    (alike : Alike (2 * row + 1) (col - row) cols distance cols') :
    rulesOf row (col + distance) cols' = (rulesOf row col cols).map (moveRule distance) := by
  unfold rulesOf
  rw [List.map_filterMap]
  apply List.filterMap_congr
  intro cells member
  have size := ((mem_living row cells).mp member).1
  rw [← size] at alike
  rw [show col + distance - row = col - row + distance by omega]
  exact emitted_moved alike row col

/-! ## Inner cells -/

/-- Every living assignment of an inner cell becomes a rule: no cell of it is outside of the row. -/
theorem rulesOf_inner_length {row : Nat} {col cols : Int} (left : row ≤ col) (right : col < cols - row) :
    (rulesOf row col cols).length = (living row).length := by
  unfold rulesOf
  rw [List.length_filterMap_eq_countP, List.countP_eq_length]
  intro cells member
  have size := ((mem_living row cells).mp member).1
  obtain ⟨predicates, found, _⟩ | ⟨place, _, ⟨alive, outside⟩, _⟩ := predicatesFrom_cases cols (col - row) cells
  · rw [emitted?, found]
    rfl
  · obtain ⟨inside, _⟩ := List.getElem?_eq_some_iff.mp alive
    omega

theorem rulesOf_inner_moved {row : Nat} {col cols col' cols' : Int} (left : row ≤ col) (right : col < cols - row)
    (left' : row ≤ col') (right' : col' < cols' - row) :
    rulesOf row col' cols' = (rulesOf row col cols).map (moveRule (col' - col)) := by
  have alike : Alike (2 * row + 1) (col - row) cols (col' - col) cols' := by
    intro place inside
    omega
  have moved := rulesOf_moved alike
  rwa [show col + (col' - col) = col' by omega] at moved

/-! ## A wider row -/

/-- A cell whose window does not reach the right end has the same rules in a wider row. -/
theorem rulesOf_left {row : Nat} {col cols : Int} (right : col < cols - row) :
    rulesOf row col (cols + 1) = rulesOf row col cols := by
  have alike : Alike (2 * row + 1) (col - row) cols 0 (cols + 1) := by
    intro place inside
    omega
  have moved := rulesOf_moved alike
  rw [Int.add_zero] at moved
  rw [moved, List.map_congr_left (fun rule _ => moveRule_zero rule), List.map_id']

/-- A cell whose window does not reach the left end has its rules moved along with the right end. -/
theorem rulesOf_right {row : Nat} {col cols : Int} (left : row ≤ col) :
    rulesOf row (col + 1) (cols + 1) = (rulesOf row col cols).map (moveRule 1) := by
  have alike : Alike (2 * row + 1) (col - row) cols 1 (cols + 1) := by
    intro place inside
    omega
  exact rulesOf_moved alike

/-- A row that is at least twice as wide as it is deep, and one that has another cell: the rules in front of the right
    end are the same, those near it are moved, and between them stand those of an inner cell. -/
theorem rulesOfRow_wider {row inner : Nat} (wide : row ≤ inner) :
    ∃ left right, rulesOfRow (inner + row) row = left ++ right ∧
      rulesOfRow (inner + row + 1) row =
        left ++ rulesOf row inner (inner + row + 1 : Nat) ++ right.map (moveRule 1) := by
  refine ⟨(List.range inner).flatMap fun (col : Nat) => rulesOf row col (inner + row : Nat),
    (List.range row).flatMap fun (i : Nat) => rulesOf row (inner + i : Nat) (inner + row : Nat), ?_, ?_⟩
  · unfold rulesOfRow
    rw [List.range_add, List.flatMap_append, List.flatMap_map]
  · have same : (List.range inner).flatMap (fun (col : Nat) => rulesOf row col (inner + row + 1 : Nat)) =
        (List.range inner).flatMap fun (col : Nat) => rulesOf row col (inner + row : Nat) := by
      apply List.flatMap_congr
      intro col member
      have inside := List.mem_range.mp member
      rw [Int.natCast_succ]
      exact rulesOf_left (by omega)
    -- Behind the new cell the columns are counted from it on, so each has its rules from the column before.
    have moved : (List.range row).flatMap (fun (i : Nat) =>
          rulesOf row (inner + (i + 1) : Nat) (inner + row + 1 : Nat)) =
        ((List.range row).flatMap fun (i : Nat) => rulesOf row (inner + i : Nat) (inner + row : Nat)).map
          (moveRule 1) := by
      rw [List.map_flatMap]
      apply List.flatMap_congr
      intro i _
      rw [← Nat.add_assoc, Int.natCast_succ, Int.natCast_succ]
      exact rulesOf_right (by omega)
    unfold rulesOfRow
    rw [Nat.add_assoc inner row 1, List.range_add, List.flatMap_append, List.flatMap_map, List.range_succ_eq_map,
      List.flatMap_cons, List.flatMap_map, ← Nat.add_assoc, same, ← moved, List.append_assoc]
    rfl

theorem rulesOfRow_length_wider {row cols : Nat} (wide : 2 * row ≤ cols) :
    (rulesOfRow (cols + 1) row).length = (rulesOfRow cols row).length + (living row).length := by
  obtain ⟨inner, rfl⟩ := Nat.exists_eq_add_of_le' (show row ≤ cols by omega)
  obtain ⟨left, right, narrow, wider⟩ := rulesOfRow_wider (show row ≤ inner by omega)
  have one : (rulesOf row inner (inner + row + 1 : Nat)).length = (living row).length :=
    rulesOf_inner_length (by omega) (by omega)
  rw [narrow, wider]
  simp only [List.length_append, List.length_map, one]
  omega

theorem sheetOf_length_wider {rows cols cap : Nat} (wide : 2 * min rows cap ≤ cols) :
    (sheetOf rows (cols + 1) cap).rules.length = (sheetOf rows cols cap).rules.length +
      ((List.range (min rows cap)).map fun above => (living (above + 1)).length).sum := by
  have grown : (List.range (min rows cap)).map (fun above => (rulesOfRow (cols + 1) (above + 1)).length) =
      (List.range (min rows cap)).map
        fun above => (rulesOfRow cols (above + 1)).length + (living (above + 1)).length := by
    apply List.map_congr_left
    intro above member
    have inside := List.mem_range.mp member
    exact rulesOfRow_length_wider (by omega)
  simp only [sheetOf, List.length_flatMap]
  rw [grown, List.sum_map_add]

/-- The rules of an inner cell are those of any other inner cell of the same depth, in a row of the same or another
    width, with every index moved, and there is one for each living assignment. A grid at least twice as wide as its
    sheet is deep gains, by another column, a rule for each living assignment of each compiled row; that the notes can
    be written does not depend on the width. -/
theorem inner_cells_are_translates :
    (∀ (row : Nat) (col cols col' cols' : Int), 1 ≤ row → row ≤ col → col < cols - row → row ≤ col' →
      col' < cols' - row → ∃ rules moved alive, cellRules row col cols = .ok rules ∧
        cellRules row col' cols' = .ok moved ∧ livingAssignments row = .ok alive ∧
        moved = rules.map (moveRule (col' - col)) ∧ rules.length = alive.length ∧ moved.length = alive.length) ∧
    ∀ rows cols cap : Nat, 1 ≤ rows → 1 ≤ cap → cap ≤ maxCompiledRow → 2 * min rows cap ≤ cols →
      ∃ s wider alive, compileSheet (.int rows) (.int cols) (.int cap) = .ok s ∧
        compileSheet (.int rows) (.int (cols + 1 : Nat)) (.int cap) = .ok wider ∧
        (s.checkNote = .ok s ∧ wider.checkNote = .ok wider ↔ (cap < rows → Decimal.isWritable rows = true)) ∧
        (List.range (min rows cap)).mapM (fun (above : Nat) => livingAssignments (above + 1 : Nat)) = .ok alive ∧
        wider.rules.length = s.rules.length + (alive.map List.length).sum := by
  constructor
  · intro row col cols col' cols' derived left right left' right'
    exact ⟨_, _, _, cellRules_eq derived col cols, cellRules_eq derived col' cols', livingAssignments_eq row,
      rulesOf_inner_moved left right left' right', rulesOf_inner_length left right, rulesOf_inner_length left' right'⟩
  · intro rows cols cap someRows someCap capBound wide
    have listed : (List.range (min rows cap)).mapM (fun (above : Nat) => livingAssignments (above + 1 : Nat)) =
        .ok ((List.range (min rows cap)).map fun above => living (above + 1)) :=
      mapM_ok _ _ _ (fun above _ => livingAssignments_eq (above + 1))
    refine ⟨_, _, _, compileSheet_eq someRows (by omega) someCap capBound,
      compileSheet_eq someRows (by omega) someCap capBound, ?_, listed, ?_⟩
    · rw [sheetOf_written_iff, sheetOf_written_iff, and_self]
    · rw [sheetOf_length_wider wide, List.map_map]
      rfl

/-- An inner cell of the second row and the next one in a wider row; and nine rows of four cells, just wide enough for
    the two of them that are compiled, of which a fifth column brings five rules to the one and seventeen to the
    other. -/
theorem inner_cells_are_translates_narrow :
    (1 ≤ 2 ∧ ((2 : Nat) : Int) ≤ 2 ∧ 2 < 5 - ((2 : Nat) : Int) ∧ ((2 : Nat) : Int) ≤ 3 ∧ 3 < 6 - ((2 : Nat) : Int) ∧
      1 ≤ 9 ∧ 2 ≤ maxCompiledRow ∧ 2 * min 9 2 ≤ 4 ∧ (2 < 9 → Decimal.isWritable 9 = true)) ∧
    (∃ rules moved, cellRules (2 : Nat) 2 5 = .ok rules ∧ cellRules (2 : Nat) 3 6 = .ok moved ∧
      moved = rules.map (moveRule 1) ∧ moved.length = 17) ∧
    ∃ s wider, compileSheet (.int (9 : Nat)) (.int (4 : Nat)) (.int (2 : Nat)) = .ok s ∧
      compileSheet (.int (9 : Nat)) (.int (5 : Nat)) (.int (2 : Nat)) = .ok wider ∧ s.checkNote = .ok s ∧
      wider.checkNote = .ok wider ∧ wider.rules.length = s.rules.length + 22 := by
  obtain ⟨rules, moved, alive, run, run', counted, same, _, count⟩ :=
    inner_cells_are_translates.1 2 2 5 3 6 (by decide) (by decide) (by decide) (by decide) (by decide)
  obtain ⟨s, wider, both, compiled, compiled', written, listed, gain⟩ :=
    inner_cells_are_translates.2 9 4 2 (by decide) (by decide) (by decide) (by decide)
  obtain rfl := Except.ok.inj (counted.symm.trans (livingAssignments_eq 2))
  have few : 2 < 9 → Decimal.isWritable 9 = true := fun _ => by decide +kernel
  obtain ⟨noted, noted'⟩ := written.mpr few
  have rows : both.map List.length = [5, 17] := by
    have run : (List.range 2).mapM (fun (above : Nat) => livingAssignments (above + 1 : Nat)) =
        .ok [living 1, living 2] := mapM_ok _ _ _ (fun above _ => livingAssignments_eq (above + 1))
    obtain rfl := Except.ok.inj (listed.symm.trans run)
    decide
  rw [rows] at gain
  exact ⟨⟨by decide, by decide, by decide, by decide, by decide, by decide, by decide, by decide, few⟩,
    ⟨rules, moved, run, run', same, count.trans (by decide)⟩,
    s, wider, compiled, compiled', noted, noted', gain⟩

end TapeSheet.Translation
