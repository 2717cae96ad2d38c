import TapeSheet.Proofs.Counting
import TapeSheet.Proofs.Cover
import TapeSheet.Proofs.Frontier

/-!
# Surveys of cells

The mask of a row and the survey of a cell come from a matrix of all assignments whose rows are reduced together. They
say of each assignment what reducing it by itself gives (`cellBelow_assignment`): a survey keeps those that make its cell
alive and counts the others, of which the one without a living cell is always one (`living_lt`).
-/

namespace TapeSheet.Surveys
open TapeSheet.LightCone TapeSheet.Enumeration TapeSheet.Counting TapeSheet.Cover TapeSheet.Frontier

/-- An assignment of a row's window reduces to the cell below its middle. -/
theorem cellBelow_assignment {row : Nat} {cells : Assignment} (size : cells.length = 2 * row + 1) :
    rule110.cellBelow cells row = .ok (lives row cells) := by
  have whole : cells.map Cell.alive = window (Tape.ofRow cells) 0 (2 * row + 1) := by
    rw [map_alive, ← size, window_ofRow]
  rw [cellBelow_window rule110 cells row _ 0 whole, Int.zero_add]
  rfl

/-- An assignment of a row's window reduces to a cell of a state. -/
def reducesTo (row : Nat) (alive : Bool) (cells : Assignment) : Bool :=
  (rule110.cellBelow cells row).toOption == some alive

theorem reducesTo_eq {row : Nat} {cells : Assignment} (member : cells ∈ allAssignments (2 * row + 1)) (alive : Bool) :
    reducesTo row alive cells = (lives row cells == alive) := by
  rw [reducesTo, cellBelow_assignment ((mem_allAssignments _ _).mp member)]
  rfl

theorem living_eq (row : Nat) : living row = (allAssignments (2 * row + 1)).filter (reducesTo row true) := by
  apply List.filter_congr
  intro cells member
  rw [reducesTo_eq member, beq_true]

/-! ## Dead assignments -/

theorem lives_dead (row : Nat) : lives row (List.replicate (2 * row + 1) false) = false := by
  have dead : ∀ alive ∈ List.replicate (2 * row + 1) false, alive = false := fun _ member => List.eq_of_mem_replicate member
  exact steps_deadFrom (deadFrom_of_dead dead row) row row (Int.le_refl _)

/-- The assignments that make a cell alive and those that do not are all. -/
theorem living_add_dead (row : Nat) :
    (living row).length + (allAssignments (2 * row + 1)).countP (reducesTo row false) = 2 ^ (2 * row + 1) := by
  have others : (allAssignments (2 * row + 1)).countP (reducesTo row false) =
      (allAssignments (2 * row + 1)).countP (fun cells => ¬ lives row cells) := by
    apply List.countP_congr
    intro cells member
    rw [reducesTo_eq member]
    cases lives row cells <;> simp
  rw [others, living, ← List.countP_eq_length_filter, ← List.length_eq_countP_add_countP, allAssignments_length]

theorem dead_pos (row : Nat) : 1 ≤ (allAssignments (2 * row + 1)).countP (reducesTo row false) := by
  have member : List.replicate (2 * row + 1) false ∈ allAssignments (2 * row + 1) :=
    (mem_allAssignments _ _).mpr List.length_replicate
  refine List.countP_pos_iff.mpr ⟨_, member, ?_⟩
  rw [reducesTo_eq member, lives_dead]
  rfl

theorem living_lt (row : Nat) : (living row).length < 2 ^ (2 * row + 1) := by
  have := living_add_dead row
  have := dead_pos row
  omega

/-- The mask of a row has for each assignment of its windows, in the order of their codes, what the assignment reduces
    to; a survey of any cell of the row keeps those that reduce to a living cell, in order and once each, and counts
    those that reduce to a dead one, of which there are some. The machine gives the same as long as it has room for the
    assignments. -/
theorem surveys_are_exact (row : Nat) (derived : 1 ≤ row) (col : Int) :
    ∃ all mask survey, assignments (2 * row + 1) = .ok all ∧ livingMask row = .ok mask ∧
      surveyCell row col = .ok survey ∧ mask.length = 2 ^ (2 * row + 1) ∧
      List.Forall₂ (fun cells alive => rule110.cellBelow cells row = .ok alive) all mask ∧
      survey.alive = all.filter (reducesTo row true) ∧ survey.alive.Nodup ∧
      survey.deadCount = all.countP (reducesTo row false) ∧ 1 ≤ survey.deadCount ∧
      survey.window = ⟨col - row, col + row⟩ ∧
      survey.alive.length + survey.deadCount = 2 ^ survey.window.width.toNat ∧
      (2 * row + 1 < Limited.matrixLimit →
        Limited.livingMask row = .ok mask ∧ Limited.surveyCell row col = .ok survey) := by
  -- A survey takes for dead what is left, which is what reduces to a dead cell only if nothing else is left.
  have counts := living_add_dead row
  have dead : 2 ^ (2 * row + 1) - (living row).length =
      (allAssignments (2 * row + 1)).countP (reducesTo row false) := by omega
  have width : (Window.mk (col - row) (col + row)).width.toNat = 2 * row + 1 := by
    simp only [Window.width]
    omega
  refine ⟨_, _, _, assignments_eq (2 * row + 1), livingMask_eq row, surveyCell_eq derived col, ?_, ?_, living_eq row,
    living_nodup row, dead, ?_, rfl, ?_, fun few => ?_⟩
  · rw [List.length_map, allAssignments_length]
  · rw [List.forall₂_map_right_iff, List.forall₂_same]
    exact fun cells member => cellBelow_assignment ((mem_allAssignments _ _).mp member)
  · simp only [dead]
    exact dead_pos row
  · simp only [dead, width]
    exact counts
  · have room : Limited.checkCodes (2 * row + 1) = .ok () := checkCodes_ok few
    unfold Limited.livingMask Limited.surveyCell
    rw [room]
    exact ⟨livingMask_eq row, surveyCell_eq derived col⟩

/-- A cell left of the row in the first derived row: five assignments make it alive and three do not. -/
theorem surveys_are_exact_first_row :
    1 ≤ 1 ∧ 2 * 1 + 1 < Limited.matrixLimit ∧
    ∃ survey, Limited.surveyCell (1 : Nat) (-1) = .ok survey ∧ survey.window = ⟨-2, 0⟩ ∧
      survey.alive = [[false, false, true], [false, true, false], [false, true, true], [true, false, true],
        [true, true, false]] ∧
      1 ≤ survey.deadCount ∧ survey.alive.length + survey.deadCount = 8 := by
  obtain ⟨all, mask, survey, listed, _, _, _, _, alive, _, _, dead, isWindow, counts, limited⟩ :=
    surveys_are_exact 1 (by decide) (-1)
  obtain rfl := Except.ok.inj (listed.symm.trans (assignments_eq 3))
  rw [isWindow] at counts
  exact ⟨by decide, by decide, survey, (limited (by decide)).2, isWindow, alive.trans (by decide), dead, counts⟩

end TapeSheet.Surveys
