import TapeSheet.Proofs.Cover

/-!
# The compiled sheet

The sheet of valid sizes, cell by cell. Valid sizes always have a sheet (`compileSheet_eq`), and compiling them gives
it unless its note cannot be written (`compiled_eq`). A rule stands in the sheet exactly if it is a rule of one of the
cells down to the compiled depth (`mem_sheetOf`).
-/

namespace TapeSheet.Compilation
open TapeSheet.LightCone TapeSheet.Enumeration TapeSheet.Cover

/-- The rules of the cells of a row, from left to right. -/
def rulesOfRow (cols row : Nat) : List SheetRule := (List.range cols).flatMap fun (col : Nat) => rulesOf row col cols

/-- The sheet of a grid with the rules of all cells down to a depth. -/
def sheetOf (rows cols cap : Nat) : Sheet where
  rows := rows
  cols := cols
  maxRow := (min rows cap : Nat)
  rules := (List.range (min rows cap)).flatMap fun above => rulesOfRow cols (above + 1)
  note := if rows > cap then some (Text.ofString (cutNote rows cap)) else none

theorem rowRules_eq (row cols : Nat) : rowRules row cols = .ok (rulesOfRow cols row) := by
  have cells : ((List.range cols).mapM fun (col : Nat) =>
      rulesInReach ⟨col - row, col + row⟩ ⟨row, col⟩ cols (living row)) =
        .ok ((List.range cols).map fun (col : Nat) => rulesOf row col cols) :=
    mapM_ok _ _ _ (fun col _ => rulesInReach_living row col cols)
  unfold rowRules
  rw [livingAssignments_eq]
  simp only
  rw [cells]
  rfl

theorem sheetOfSizes_eq (rows cols cap : Nat) : sheetOfSizes rows cols cap = .ok (sheetOf rows cols cap) := by
  have parts : ((List.range (min rows cap)).mapM fun above => rowRules (above + 1) cols) =
      .ok ((List.range (min rows cap)).map fun above => rulesOfRow cols (above + 1)) :=
    mapM_ok _ _ _ (fun above _ => rowRules_eq (above + 1) cols)
  unfold sheetOfSizes
  simp only
  rw [parts]
  rfl

theorem positive_int (key : String) {n : Nat} (some : 1 ≤ n) : positive key (.int n) = .ok n := by
  unfold positive
  simp only
  rw [if_neg (by omega), Int.toNat_natCast]

/-- Valid sizes have a sheet. -/
theorem compileSheet_eq {rows cols cap : Nat} (someRows : 1 ≤ rows) (someCols : 1 ≤ cols) (someCap : 1 ≤ cap)
    (capBound : cap ≤ maxCompiledRow) :
    compileSheet (.int rows) (.int cols) (.int cap) = .ok (sheetOf rows cols cap) := by
  unfold compileSheet
  rw [positive_int "rows" someRows, positive_int "cols" someCols, positive_int "cap" someCap]
  simp only [bind, Except.bind]
  rw [if_neg (by omega)]
  exact sheetOfSizes_eq rows cols cap

/-- The sheet of valid sizes can be written, unless it is cut and its last row has too many digits. -/
theorem sheetOf_checkNote (rows cols cap : Nat) :
    (sheetOf rows cols cap).checkNote =
      if cap < rows ∧ Decimal.isWritable rows = false then .error (.range .unwritableNumber)
      else .ok (sheetOf rows cols cap) := by
  by_cases deep : cap < rows <;> cases few : Decimal.isWritable rows <;>
    simp [Sheet.checkNote, Decimal.ifWritable, sheetOf, deep, few]

/-- Compiling valid sizes gives their sheet, unless it is cut and its last row has too many digits. -/
theorem compiled_eq {rows cols cap : Nat} (someRows : 1 ≤ rows) (someCols : 1 ≤ cols) (someCap : 1 ≤ cap)
    (capBound : cap ≤ maxCompiledRow) :
    compiled (.int rows) (.int cols) (.int cap) =
      if cap < rows ∧ Decimal.isWritable rows = false then .error (.range .unwritableNumber)
      else .ok (sheetOf rows cols cap) := by
  rw [compiled, compileSheet_eq someRows someCols someCap capBound, ← sheetOf_checkNote]
  rfl

theorem sheetOf_written_iff (rows cols cap : Nat) :
    (sheetOf rows cols cap).checkNote = .ok (sheetOf rows cols cap) ↔
      (cap < rows → Decimal.isWritable rows = true) := by
  rw [sheetOf_checkNote]
  by_cases deep : cap < rows <;> by_cases few : Decimal.isWritable rows = true <;> simp [deep, few]

theorem compiled_iff {rows cols cap : Nat} (someRows : 1 ≤ rows) (someCols : 1 ≤ cols) (someCap : 1 ≤ cap)
    (capBound : cap ≤ maxCompiledRow) :
    compiled (.int rows) (.int cols) (.int cap) = .ok (sheetOf rows cols cap) ↔
      (cap < rows → Decimal.isWritable rows = true) := by
  rw [compiled_eq someRows someCols someCap capBound, ← sheetOf_checkNote]
  exact sheetOf_written_iff rows cols cap

theorem mem_sheetOf (rows cols cap : Nat) (rule : SheetRule) :
    rule ∈ (sheetOf rows cols cap).rules ↔
      ∃ above < min rows cap, ∃ col < cols, rule ∈ rulesOf (above + 1) (col : Nat) cols := by
  simp only [sheetOf, rulesOfRow, List.mem_flatMap, List.mem_range]

/-- Every rule of the sheet lights a cell of the compiled part of the grid, by predicates about cells of the row in
    ascending order. -/
theorem sheetOf_rule {rows cols cap : Nat} {rule : SheetRule} (member : rule ∈ (sheetOf rows cols cap).rules) :
    (∃ above < min rows cap, ∃ col < cols, rule.target = ⟨(above + 1 : Nat), (col : Nat)⟩) ∧
      Inside cols rule.predicates ∧ rule.predicates.Pairwise fun p q => p.index < q.index := by
  obtain ⟨above, rowInside, col, colInside, ofCell⟩ := (mem_sheetOf ..).mp member
  obtain ⟨target, inside, ascending⟩ := mem_rulesOf ofCell
  exact ⟨⟨above, rowInside, col, colInside, target⟩, inside, ascending⟩

end TapeSheet.Compilation
