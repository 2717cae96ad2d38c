import TapeSheet.Proofs.Compilation
import TapeSheet.Proofs.Names
import TapeSheet.Rendering

/-!
# What a sheet shows

A sheet whose predicates are about cells of the row lights exactly the targets of the rules that hold, without a
fault (`litCells_spec`, `litGrid_eq`). For a compiled sheet these are the living cells of the evolution
(`compiled_sheet_shows_evolution`), but there is none for a grid whose note cannot be written
(`unwritable_rows_not_compiled`).
-/

namespace TapeSheet.Display
open TapeSheet.LightCone TapeSheet.Cover TapeSheet.Compilation TapeSheet.Names

/-- All predicates of a sheet are about cells of the row. -/
def OnTape (s : Sheet) : Prop := ∀ rule ∈ s.rules, Inside s.cols rule.predicates

/-- Some rule for a cell holds on a row. -/
def Lit (s : Sheet) (root : List Bool) (target : Target) : Prop :=
  ∃ rule ∈ s.rules, rule.target = target ∧ Meets root rule.predicates

instance (s : Sheet) (root : List Bool) (target : Target) : Decidable (Lit s root target) :=
  inferInstanceAs (Decidable (∃ rule ∈ s.rules, rule.target = target ∧ Meets root rule.predicates))

theorem heldTargets_eq (root : List Bool) (rules : List SheetRule) (found : List Target)
    (inside : ∀ rule ∈ rules, Inside root.length rule.predicates) :
    heldTargets root rules found =
      .ok (found.reverse ++ (rules.filter fun rule => decide (Meets root rule.predicates)).map (·.target)) := by
  induction rules generalizing found with
  | nil => simp [heldTargets]
  | cons rule rest ih =>
    have insideRest : ∀ other ∈ rest, Inside root.length other.predicates :=
      fun other member => inside other (by simp [member])
    rw [heldTargets, holdsOn_eq rule root (inside rule (by simp))]
    simp only
    rw [ih _ insideRest]
    by_cases holds : Meets root rule.predicates
    · simp [holds]
    · simp [holds]

/-- The lit cells are the targets of the rules that hold. -/
theorem litCells_spec {s : Sheet} {root : List Bool} (size : (root.length : Int) = s.cols) (onTape : OnTape s) :
    ∃ cells, s.litCells root = .ok cells ∧ ∀ target, target ∈ cells ↔ Lit s root target := by
  have inside : ∀ rule ∈ s.rules, Inside root.length rule.predicates := by
    intro rule member
    rw [size]
    exact onTape rule member
  unfold Sheet.litCells
  rw [if_neg (by simp [size]), heldTargets_eq root s.rules [] inside]
  refine ⟨_, rfl, ?_⟩
  intro target
  simp only [List.mem_eraseDups, List.reverse_nil, List.nil_append, List.mem_map, List.mem_filter, decide_eq_true_eq]
  constructor
  · rintro ⟨rule, ⟨member, holds⟩, same⟩
    exact ⟨rule, member, same, holds⟩
  · rintro ⟨rule, member, same, holds⟩
    exact ⟨rule, ⟨member, holds⟩, same⟩

/-- The grid shows a cell alive if some rule for it holds. -/
theorem litGrid_eq {s : Sheet} {root : List Bool} (size : (root.length : Int) = s.cols) (onTape : OnTape s) :
    s.litGrid root = .ok ((List.range s.rows.toNat).map fun (row : Nat) =>
      (List.range s.cols.toNat).map fun (col : Nat) => decide (Lit s root ⟨row + 1, col⟩)) := by
  obtain ⟨cells, lit, members⟩ := litCells_spec size onTape
  unfold Sheet.litGrid
  rw [lit]
  refine congrArg Except.ok ?_
  apply List.map_congr_left
  intro row _
  apply List.map_congr_left
  intro col _
  rw [← decide_eq_decide.mpr (members ⟨row + 1, col⟩), List.contains_eq_mem]

/-! ## Compiled sheets -/

theorem sheetOf_onTape (rows cols cap : Nat) : OnTape (sheetOf rows cols cap) :=
  fun _ member => (sheetOf_rule member).2.1

/-- A compiled sheet lights the living cells of the evolution down to its depth. -/
theorem sheetOf_lit (rows cap : Nat) (root : List Bool) (above col : Nat) (inside : col < root.length) :
    Lit (sheetOf rows root.length cap) root ⟨above + 1, col⟩ ↔
      above < min rows cap ∧ rule110.steps (above + 1) (Tape.ofRow root) col = true := by
  rw [← some_rulesOf_meets]
  constructor
  · rintro ⟨rule, member, target, holds⟩
    obtain ⟨above', rowInside, col', colInside, ofCell⟩ := (mem_sheetOf ..).mp member
    rw [(mem_rulesOf ofCell).1] at target
    simp only [Target.mk.injEq] at target
    obtain rfl : above' = above := by omega
    obtain rfl : col' = col := by omega
    exact ⟨rowInside, rule, ofCell, holds⟩
  · rintro ⟨rowInside, rule, ofCell, holds⟩
    exact ⟨rule, (mem_sheetOf ..).mpr ⟨above, rowInside, col, inside, ofCell⟩, (mem_rulesOf ofCell).1, holds⟩

/-- The sheet of valid sizes shows the evolution of every row of cells down to its depth, and nothing below. -/
theorem sheetOf_shows (rows cap : Nat) (root : List Bool) :
    ∃ grid, (sheetOf rows root.length cap).litGrid root = .ok grid ∧ grid.length = rows ∧
      (∀ cells ∈ grid, cells.length = root.length) ∧
      (∀ row col : Nat, 1 ≤ row → row ≤ min rows cap → col < root.length →
        cellOf grid (row - 1) col = some (rule110.steps row (Tape.ofRow root) col)) ∧
      ∀ row col : Nat, min rows cap < row → row ≤ rows → col < root.length →
        cellOf grid (row - 1) col = some false := by
  have width : (root.length : Int) = (sheetOf rows root.length cap).cols := rfl
  have shown := litGrid_eq width (sheetOf_onTape rows root.length cap)
  have cell : ∀ above < rows, ∀ col < root.length,
      cellOf ((List.range rows).map fun (row : Nat) => (List.range root.length).map fun (col : Nat) =>
          decide (Lit (sheetOf rows root.length cap) root ⟨row + 1, col⟩)) above col =
        some (decide (Lit (sheetOf rows root.length cap) root ⟨above + 1, col⟩)) :=
    fun above rowInside col colInside => cellOf_map
      (fun (row col : Nat) => decide (Lit (sheetOf rows root.length cap) root ⟨row + 1, col⟩)) rowInside colInside
  refine ⟨_, shown, by simp [sheetOf], ?_, ?_, ?_⟩
  · intro cells member
    obtain ⟨row, _, rfl⟩ := List.mem_map.mp member
    simp [sheetOf]
  · intro row col low high inside
    obtain ⟨above, rfl⟩ : ∃ above, row = above + 1 := ⟨row - 1, by omega⟩
    have isCompiled : above < min rows cap := by omega
    refine (cell above (by omega) col inside).trans (congrArg some ?_)
    rw [Bool.eq_iff_iff, decide_eq_true_iff]
    exact (sheetOf_lit rows cap root above col inside).trans (and_iff_right isCompiled)
  · intro row col low high inside
    obtain ⟨above, rfl⟩ : ∃ above, row = above + 1 := ⟨row - 1, by omega⟩
    refine (cell above (by omega) col inside).trans (congrArg some (decide_eq_false ?_))
    intro lit
    have isCompiled := ((sheetOf_lit rows cap root above col inside).mp lit).1
    omega

/-- Compiling valid sizes gives a sheet that shows the evolution of every row of cells down to its depth, and nothing
below, unless the sheet is cut and its last row has too many digits for the note; then there is no sheet. -/
theorem compiled_sheet_shows_evolution (rows cols cap : Nat) (someRows : 1 ≤ rows) (someCols : 1 ≤ cols)
    (someCap : 1 ≤ cap) (capBound : cap ≤ maxCompiledRow) (root : List Bool) (size : root.length = cols) :
    (cap < rows ∧ Decimal.isWritable rows = false →
      compiled (.int rows) (.int cols) (.int cap) = .error (.range .unwritableNumber)) ∧
    ((cap < rows → Decimal.isWritable rows = true) →
      ∃ sheet grid, compiled (.int rows) (.int cols) (.int cap) = .ok sheet ∧ sheet.litGrid root = .ok grid ∧
        grid.length = rows ∧ (∀ cells ∈ grid, cells.length = cols) ∧
        (∀ row col : Nat, 1 ≤ row → row ≤ min rows cap → col < cols →
          cellOf grid (row - 1) col = some (rule110.steps row (Tape.ofRow root) col)) ∧
        ∀ row col : Nat, min rows cap < row → row ≤ rows → col < cols →
          cellOf grid (row - 1) col = some false) := by
  subst size
  have outcome := compiled_eq someRows someCols someCap capBound
  refine ⟨fun unfit => outcome.trans (if_pos unfit), fun fits => ?_⟩
  have fit : ¬ (cap < rows ∧ Decimal.isWritable rows = false) := fun ⟨cut, many⟩ => by
    rw [fits cut] at many
    cases many
  obtain ⟨grid, shown⟩ := sheetOf_shows rows cap root
  exact ⟨_, grid, outcome.trans (if_neg fit), shown⟩

/-- A row narrower than its windows, in a grid that goes deeper than it is compiled. -/
theorem compiled_sheet_shows_evolution_narrow :
    (1 ≤ 3 ∧ 1 ≤ 2 ∧ 2 ≤ maxCompiledRow ∧ [true, true].length = 2) ∧
    ∃ sheet grid, compiled (.int (3 : Nat)) (.int (2 : Nat)) (.int (2 : Nat)) = .ok sheet ∧
      sheet.litGrid [true, true] = .ok grid ∧ (1 ≤ 2 ∧ 2 ≤ min 3 2 ∧ 0 < 2) ∧
      cellOf grid 1 0 = some (rule110.steps 2 (Tape.ofRow [true, true]) (0 : Nat)) ∧
      rule110.steps 2 (Tape.ofRow [true, true]) (0 : Nat) = false ∧
      (min 3 2 < 3 ∧ 3 ≤ 3 ∧ 1 < 2) ∧ cellOf grid 2 1 = some false := by
  obtain ⟨sheet, grid, made, run, _, _, above, below⟩ := (compiled_sheet_shows_evolution 3 2 2 (by decide) (by decide)
    (by decide) (by decide) [true, true] rfl).2 (by decide +kernel)
  exact ⟨by decide, sheet, grid, made, run, by decide, above 2 0 (by decide) (by decide) (by decide), by decide,
    by decide, below 3 1 (by decide) (by decide) (by decide)⟩

/-- A grid with more rows than can be written has no sheet if it is cut, here behind the first row. -/
theorem unwritable_rows_not_compiled :
    1 ≤ Decimal.unwritable ∧ 1 ≤ maxCompiledRow ∧
    ¬ ∃ sheet, compiled (.int Decimal.unwritable) (.int (1 : Nat)) (.int (1 : Nat)) = .ok sheet := by
  have many : 2 ≤ Decimal.unwritable := by decide +kernel
  have outcome := @compiled_eq Decimal.unwritable 1 1 (by omega) (by decide) (by decide) (by decide)
  rw [if_pos ⟨by omega, isWritable_unwritable⟩] at outcome
  refine ⟨by omega, by decide, ?_⟩
  rintro ⟨sheet, made⟩
  rw [outcome] at made
  cases made

end TapeSheet.Display
