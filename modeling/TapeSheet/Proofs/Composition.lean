import TapeSheet.Proofs.LightCone

/-!
# Reducing in parts

The cell below the middle of a window is the cell of any tape that has the window in it, whatever else the tape holds
(`cellBelow_onTape`). The cells below all short windows of a long one are a window of the tape some rows further down,
so reducing the long window is reducing the row of these cells (`reduced_in_parts`).
-/

namespace TapeSheet.Composition
open TapeSheet.LightCone

theorem steps_add (ρ : Rule) (m n : Nat) (g : Tape) : ρ.steps (m + n) g = ρ.steps n (ρ.steps m g) := by
  induction n with
  | zero => rfl
  | succ n ih => rw [Nat.add_succ, Rule.steps, ih, Rule.steps]

theorem window_eq_map (g : Tape) (first : Int) (count : Nat) :
    window g first count = (List.range count).map fun (i : Nat) => g (first + i) := by
  apply List.ext_getElem
  · simp [window_length]
  · intro i _ _
    rw [window_getElem, List.getElem_map, List.getElem_range]

theorem map_slice {α β : Type} (f : α → β) (row : List α) (first count : Nat) :
    (slice row first count).map f = slice (row.map f) first count := by
  rw [slice, slice, List.map_take, List.map_drop]

section Cells
variable {α : Type} [Cell α]

/-- The cells of a row stand on a tape from its beginning on. -/
def Within (cells : List α) (g : Tape) : Prop := ∀ i, (inside : i < cells.length) → g i = Cell.alive cells[i]

theorem window_of_within {cells : List α} {g : Tape} (within : Within cells g) :
    cells.map Cell.alive = window g 0 cells.length := by
  apply List.ext_getElem
  · rw [List.length_map, window_length]
  · intro i inside _
    rw [List.length_map] at inside
    rw [List.getElem_map, window_getElem, Int.zero_add, within i inside]

theorem within_ofRow (cells : List α) : Within cells (Tape.ofRow (cells.map Cell.alive)) := by
  intro i inside
  rw [ofRow_getElem _ i (by rw [List.length_map]; exact inside), List.getElem_map]

/-- What stands beyond the window has no say. -/
theorem cellBelow_onTape (ρ : Rule) {cells : List α} {d : Nat} (size : cells.length = 2 * d + 1) {g : Tape}
    (within : Within cells g) : ρ.cellBelow cells d = .ok (ρ.steps d g d) := by
  have cone := window_of_within within
  rw [size] at cone
  rw [cellBelow_window ρ cells d g 0 cone, Int.zero_add]

theorem cellBelow_slice (ρ : Rule) {cells : List α} {m n i : Nat} (size : cells.length = 2 * (m + n) + 1)
    (inside : i < 2 * n + 1) {g : Tape} (within : Within cells g) :
    ρ.cellBelow (slice cells i (2 * m + 1)) m = .ok (ρ.steps m g (m + i : Nat)) := by
  have cut : cells.length = i + (2 * m + 1) + (2 * n - i) := by omega
  have cone : (slice cells i (2 * m + 1)).map Cell.alive = window g i (2 * m + 1) := by
    rw [map_slice, window_of_within within, cut, slice_window, Int.zero_add]
  rw [cellBelow_window ρ _ m g i cone]
  congr 2
  omega

/-- The cells below all short windows of a long one, from left to right. -/
theorem cellsBelow_slices (ρ : Rule) {cells : List α} {m n : Nat} (size : cells.length = 2 * (m + n) + 1) {g : Tape}
    (within : Within cells g) :
    ((List.range (2 * n + 1)).mapM fun i => ρ.cellBelow (slice cells i (2 * m + 1)) m) =
      .ok (window (ρ.steps m g) m (2 * n + 1)) := by
  rw [window_eq_map]
  apply mapM_ok
  intro i member
  rw [cellBelow_slice ρ size (List.mem_range.mp member) within]
  rfl

/-- The cell below the middle of a window is the cell of every tape that has the window in it, so a window can be
reduced in two parts: the cells below all its short windows make a row that reduces to the same cell. -/
theorem reduced_in_parts (ρ : Rule) (cells : List α) :
    (∀ (d : Nat) (g : Tape), cells.length = 2 * d + 1 → Within cells g → ρ.cellBelow cells d = .ok (ρ.steps d g d)) ∧
    ∀ m n : Nat, cells.length = 2 * (m + n) + 1 →
      ∃ below alive, ((List.range (2 * n + 1)).mapM fun i => ρ.cellBelow (slice cells i (2 * m + 1)) m) = .ok below ∧
        below.length = 2 * n + 1 ∧ ρ.cellBelow below n = .ok alive ∧
        ρ.cellBelow cells (m + n : Nat) = .ok alive := by
  refine ⟨fun d g size within => cellBelow_onTape ρ size within, fun m n size => ?_⟩
  -- Any tape with the window on it will do, for instance the one that is dead elsewhere.
  have within := within_ofRow cells
  refine ⟨_, _, cellsBelow_slices ρ size within, window_length .., ?_, cellBelow_onTape ρ size within⟩
  rw [cellBelow_window ρ _ n _ m (map_alive _), steps_add]
  congr 2

end Cells

/-- A window on a tape that is alive all around it, under a rule that carries life over in two steps. -/
theorem reduced_in_parts_crowded :
    [true, false, true, true, false].length = 2 * 2 + 1 ∧
    Within [true, false, true, true, false] (fun i => i ≠ 1 && i ≠ 4) ∧
    (Rule.mk 30).cellBelow [true, false, true, true, false] (2 : Nat) =
      .ok ((Rule.mk 30).steps 2 (fun i => i ≠ 1 && i ≠ 4) (2 : Nat)) ∧
    [true, false, true, true, false].length = 2 * (1 + 1) + 1 ∧
    ∃ below alive, ((List.range 3).mapM fun i =>
        (Rule.mk 30).cellBelow (slice [true, false, true, true, false] i 3) (1 : Nat)) = .ok below ∧
      below.length = 3 ∧ (Rule.mk 30).cellBelow below (1 : Nat) = .ok alive ∧
      (Rule.mk 30).cellBelow [true, false, true, true, false] (2 : Nat) = .ok alive := by
  have within : Within [true, false, true, true, false] (fun i => i ≠ 1 && i ≠ 4) := by
    unfold Within
    decide
  obtain ⟨onTape, parts⟩ := reduced_in_parts (Rule.mk 30) [true, false, true, true, false]
  exact ⟨rfl, within, onTape 2 _ rfl within, rfl, parts 1 1 rfl⟩

end TapeSheet.Composition
