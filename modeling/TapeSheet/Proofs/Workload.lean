import TapeSheet.Proofs.Compilation
import TapeSheet.Proofs.Refusals
import TapeSheet.Proofs.Surveys
import TapeSheet.Proofs.Validation

/-!
# The work of a batch

The work of a grid is reckoned from its sizes alone. It is the number of assignments of the windows of all cells that
compiling looks at (`cells_total`), and since each window has an assignment that lets its cell be dead, it is greater
than the number of rules (`rules_lt_work`). So a batch that is not too much work has fewer rules than it may have work.
-/

namespace TapeSheet.Workload
open TapeSheet.LightCone TapeSheet.Enumeration TapeSheet.Cover TapeSheet.Compilation TapeSheet.Surveys TapeSheet.Phases
  TapeSheet.Refusals TapeSheet.Validation

/-! ## Cells of a grid -/

/-- The cells of a row, from left to right. -/
def cellsOfRow (cols row : Nat) : List Target := (List.range cols).map fun (col : Nat) => ⟨row, col⟩

/-- The cells of a grid down to a depth, row by row. -/
def cellsDownTo (cols depth : Nat) : List Target := (List.range depth).flatMap fun above => cellsOfRow cols (above + 1)

/-- A list has each derived cell of `cols` columns down to a depth once, and no other cells. -/
structure Covers (cells : List Target) (cols depth : Int) : Prop where
  once : cells.Nodup
  all : ∀ t, t ∈ cells ↔ (1 ≤ t.row ∧ t.row ≤ depth) ∧ 0 ≤ t.col ∧ t.col < cols

theorem mem_cellsOfRow {cols row : Nat} {t : Target} :
    t ∈ cellsOfRow cols row ↔ t.row = row ∧ 0 ≤ t.col ∧ t.col < cols := by
  rw [cellsOfRow, List.mem_map]
  constructor
  · rintro ⟨col, member, rfl⟩
    exact ⟨rfl, Int.natCast_nonneg col, Int.ofNat_lt.mpr (List.mem_range.mp member)⟩
  · rintro ⟨isRow, low, high⟩
    obtain ⟨col, isCol⟩ := Int.eq_ofNat_of_zero_le low
    refine ⟨col, List.mem_range.mpr (by omega), ?_⟩
    rw [← isRow, ← isCol]

theorem cellsDownTo_succ (cols depth : Nat) :
    cellsDownTo cols (depth + 1) = cellsDownTo cols depth ++ cellsOfRow cols (depth + 1) := by
  simp [cellsDownTo, List.range_succ]

theorem cellsDownTo_covers (cols depth : Nat) : Covers (cellsDownTo cols depth) cols depth := by
  induction depth with
  | zero => exact ⟨List.nodup_nil, fun t => by simp [cellsDownTo]; omega⟩
  | succ depth ih =>
    have row : (cellsOfRow cols (depth + 1)).Nodup := by
      refine List.Nodup.map ?_ List.nodup_range
      intro col other same
      exact Int.ofNat_inj.mp (congrArg Target.col same)
    constructor
    · rw [cellsDownTo_succ]
      -- The row lies below all cells that are listed before it.
      refine List.Nodup.append ih.once row fun t above below => ?_
      have := (ih.all t).mp above
      have := mem_cellsOfRow.mp below
      omega
    · intro t
      rw [cellsDownTo_succ, List.mem_append, ih.all, mem_cellsOfRow]
      omega

/-! ## What is done for a cell -/

def surveyOf (t : Target) : Survey :=
  ⟨⟨t.col - t.row, t.col + t.row⟩, living t.row.toNat, 2 ^ (2 * t.row.toNat + 1) - (living t.row.toNat).length⟩

def rulesAt (cols : Int) (t : Target) : List SheetRule := rulesOf t.row.toNat t.col cols

section Cell
variable {t : Target}

theorem surveyCell_of (derived : 1 ≤ t.row) : surveyCell t.row t.col = .ok (surveyOf t) := by
  have made := surveyCell_eq (by omega : 1 ≤ t.row.toNat) t.col
  rwa [Int.toNat_of_nonneg (by omega)] at made

theorem cellRules_of (derived : 1 ≤ t.row) (cols : Int) : cellRules t.row t.col cols = .ok (rulesAt cols t) := by
  have made := cellRules_eq (by omega : 1 ≤ t.row.toNat) t.col cols
  rwa [Int.toNat_of_nonneg (by omega)] at made

theorem surveyOf_total (t : Target) : (surveyOf t).total = 2 ^ (2 * t.row.toNat + 1) := by
  have := living_lt t.row.toNat
  simp only [Survey.total, surveyOf]
  omega

/-- A cell has fewer rules than its window has assignments. -/
theorem rulesAt_lt (cols : Int) (t : Target) : (rulesAt cols t).length + 1 ≤ (surveyOf t).total := by
  have few : (rulesAt cols t).length ≤ (living t.row.toNat).length := List.length_filterMap_le ..
  have := living_lt t.row.toNat
  rw [surveyOf_total]
  omega

end Cell

/-! ## One grid -/

theorem rulesOfRow_eq (cols row : Nat) : rulesOfRow cols row = (cellsOfRow cols row).flatMap (rulesAt cols) := by
  rw [cellsOfRow, List.flatMap_map]
  rfl

theorem sheetOf_rules_eq (rows cols cap : Nat) :
    (sheetOf rows cols cap).rules = (cellsDownTo cols (min rows cap)).flatMap (rulesAt cols) := by
  simp only [sheetOf, rulesOfRow_eq, cellsDownTo, List.flatMap_assoc]

theorem row_total (cols row : Nat) :
    ((cellsOfRow cols row).map fun t => (surveyOf t).total).sum = cols * 2 ^ (2 * row + 1) := by
  have each : ∀ t ∈ cellsOfRow cols row, (surveyOf t).total = 2 ^ (2 * row + 1) := by
    intro t member
    rw [surveyOf_total, (mem_cellsOfRow.mp member).1, Int.toNat_natCast]
  have count : (cellsOfRow cols row).length = cols := by simp [cellsOfRow]
  rw [List.map_congr_left each, List.map_const', List.sum_replicate_nat, count]

/-- The assignments of the windows of all cells are the work of as many columns. -/
theorem cells_total (cols depth : Nat) :
    ((cellsDownTo cols depth).map fun t => (surveyOf t).total).sum = cols * Grid.columnWork depth := by
  induction depth with
  | zero => rfl
  | succ depth ih =>
    rw [cellsDownTo_succ, List.map_append, List.sum_append, ih, row_total, ← Nat.mul_add]
    rfl

/-- The numbers of the assignments of the rows are a geometric progression. -/
theorem columnWork_closed (depth : Nat) : 3 * Grid.columnWork depth + 8 = 8 * 4 ^ depth := by
  induction depth with
  | zero => rfl
  | succ depth ih =>
    have row : 2 ^ (2 * (depth + 1) + 1) = 8 * 4 ^ depth := by
      rw [show 2 * (depth + 1) + 1 = 3 + 2 * depth by omega, Nat.pow_add, Nat.pow_mul]
    have sum : Grid.columnWork (depth + 1) = Grid.columnWork depth + 2 ^ (2 * (depth + 1) + 1) := rfl
    rw [sum, row, Nat.pow_succ]
    omega

theorem work_closed (g : Grid) : 3 * g.work = g.cols * 8 * (4 ^ g.depth - 1) := by
  have column := columnWork_closed g.depth
  have isColumn : 3 * Grid.columnWork g.depth = 8 * (4 ^ g.depth - 1) := by omega
  rw [Grid.work, Nat.mul_left_comm, isColumn, Nat.mul_assoc]

theorem length_add_le_total (cols : Int) (cells : List Target) :
    (cells.flatMap (rulesAt cols)).length + cells.length ≤ (cells.map fun t => (surveyOf t).total).sum := by
  induction cells with
  | nil => exact Nat.le_refl 0
  | cons t rest ih =>
    have here := rulesAt_lt cols t
    simp only [List.flatMap_cons, List.length_append, List.length_cons, List.map_cons, List.sum_cons]
    omega

def sheetFor (g : Grid) : Sheet := sheetOf g.rows g.cols g.cap

theorem compileSheet_for (g : Grid) : compileSheet (.int g.rows) (.int g.cols) (.int g.cap) = .ok (sheetFor g) :=
  compileSheet_eq g.rows_pos g.cols_pos g.cap_pos g.cap_le

theorem rules_lt_work (g : Grid) : (sheetFor g).rules.length < g.work := by
  have first : (⟨1, 0⟩ : Target) ∈ cellsDownTo g.cols g.depth := by
    have := g.rows_pos
    have := g.cols_pos
    have := g.cap_pos
    rw [(cellsDownTo_covers g.cols g.depth).all, Grid.depth]
    simp only
    omega
  -- Every cell has an assignment without a rule, and there is a cell.
  have some := List.length_pos_of_mem first
  have bound := length_add_le_total g.cols (cellsDownTo g.cols g.depth)
  rw [cells_total] at bound
  rw [sheetFor, sheetOf_rules_eq]
  exact Nat.lt_of_lt_of_le (Nat.lt_add_of_pos_right some) bound

/-! ## Batches -/

theorem rules_add_le_totalWork (grids : List Grid) :
    (grids.map fun g => (sheetFor g).rules.length).sum + grids.length ≤ totalWork grids := by
  induction grids with
  | nil => exact Nat.le_refl 0
  | cons g rest ih =>
    have here := rules_lt_work g
    simp only [List.map_cons, List.sum_cons, List.length_cons, totalWork]
    omega

theorem rules_lt_ceiling {grids : List Grid} (few : totalWork grids ≤ workCeiling) :
    (grids.map fun g => (sheetFor g).rules.length).sum < workCeiling := by
  have bound := rules_add_le_totalWork grids
  cases grids with
  | nil => decide
  | cons g rest =>
    rw [List.length_cons] at bound
    omega

/-- The work of a grid counts the assignments in the surveys of just the cells whose rules are compiled: each cell of
    each column down to the last row of the sheet. It is greater than the number of the rules. So a batch that changes
    any file is one of grids whose sheets have, all together, fewer rules than the limit of the work. -/
theorem work_counts_assignments :
    (∀ g : Grid, ∃ s cells parts surveys, compileSheet (.int g.rows) (.int g.cols) (.int g.cap) = .ok s ∧
      (g.compile = .ok s ↔ NoteFits g) ∧ Covers cells g.cols s.maxRow ∧
      cells.mapM (fun t => cellRules t.row t.col g.cols) = .ok parts ∧ s.rules = parts.flatten ∧
      cells.mapM (fun t => surveyCell t.row t.col) = .ok surveys ∧ g.work = (surveys.map Survey.total).sum ∧
      3 * g.work = g.cols * 8 * (4 ^ s.maxRow.toNat - 1) ∧ s.rules.length < g.work) ∧
    ∀ (now : Moment) (tokens : List Text) (w : World),
      ((batchCommand now compileSheet tokens).outcome w).2.disk = w.disk ∨
      ∃ o grids sheets, AsksBatch tokens w.disk o grids ∧
        batchCommand now compileSheet tokens w = buildBatch now compileSheet o grids (announced grids w) ∧
        grids.mapM (fun g => compileSheet (.int g.rows) (.int g.cols) (.int g.cap)) = .ok sheets ∧
        (sheets.map fun s => s.rules.length).sum < workCeiling := by
  constructor
  · intro g
    have covers := cellsDownTo_covers g.cols g.depth
    have derived : ∀ t ∈ cellsDownTo g.cols g.depth, 1 ≤ t.row := fun t member => ((covers.all t).mp member).1.1
    refine ⟨sheetFor g, cellsDownTo g.cols g.depth, _, _, compileSheet_for g, ?_, covers,
      mapM_ok _ _ _ (fun t member => cellRules_of (derived t member) g.cols), ?_,
      mapM_ok _ _ _ (fun t member => surveyCell_of (derived t member)), ?_, work_closed g, rules_lt_work g⟩
    · exact compiled_iff g.rows_pos g.cols_pos g.cap_pos g.cap_le
    · exact sheetOf_rules_eq g.rows g.cols g.cap
    · rw [List.map_map]
      exact (cells_total g.cols g.depth).symm
  · intro now tokens w
    cases admitted : admitted? tokens w.disk with
    | none => exact .inl (batch_refused admitted)
    | some all =>
      obtain ⟨o, grids⟩ := all
      cases dry : o.dryRun with
      | true => exact .inl (batch_shown admitted dry)
      | false =>
        have asks := admitted_iff.mp admitted
        refine .inr ⟨o, grids, _, asks, ?_, mapM_ok _ _ _ (fun g _ => compileSheet_for g), ?_⟩
        · rw [batchCommand_admitted admitted, dry]
          rfl
        · rw [List.map_map]
          exact rules_lt_ceiling asks.work

end TapeSheet.Workload
