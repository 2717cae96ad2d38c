import TapeSheet.Proofs.BlockReading
import TapeSheet.Proofs.CanonicalForm
import TapeSheet.Proofs.Display
import TapeSheet.Proofs.RecordReading

/-!
# Sheets that are cut

The rules of a sheet stand row by row, so a sheet that ends further up has the first rules of one that goes deeper
(`rulesDownTo_begins`), which are those for its rows (`filter_rulesDownTo`), and it shows the same cells in these rows.
The rows that a sheet is cut by are those that its note names (`sheetOf_tellsCut`).
-/

namespace TapeSheet.Capping
open TapeSheet.BlockReading TapeSheet.CanonicalForm TapeSheet.Compilation TapeSheet.Cover TapeSheet.Display
  TapeSheet.LightCone TapeSheet.RecordReading

/-! ## Rules -/

/-- The rules of all cells down to a depth, row by row. -/
def rulesDownTo (cols depth : Nat) : List SheetRule :=
  (List.range depth).flatMap fun above => rulesOfRow cols (above + 1)

theorem sheetOf_rules (rows cols cap : Nat) : (sheetOf rows cols cap).rules = rulesDownTo cols (min rows cap) := rfl

theorem rulesDownTo_append (cols depth more : Nat) :
    rulesDownTo cols (depth + more) =
      rulesDownTo cols depth ++ (List.range more).flatMap fun below => rulesOfRow cols (depth + below + 1) := by
  simp [rulesDownTo, List.range_add, List.flatMap_map]

theorem rulesDownTo_begins (cols : Nat) {depth deeper : Nat} (le : depth ≤ deeper) :
    rulesDownTo cols depth <+: rulesDownTo cols deeper := by
  obtain ⟨more, rfl⟩ := Nat.exists_eq_add_of_le le
  rw [rulesDownTo_append]
  exact List.prefix_append _ _

theorem rulesOfRow_row {cols row : Nat} {rule : SheetRule} (member : rule ∈ rulesOfRow cols row) :
    rule.target.row = row := by
  obtain ⟨col, _, ofCell⟩ := List.mem_flatMap.mp member
  rw [(mem_rulesOf ofCell).1]

/-- The rules down to a depth are those of a deeper sheet for the rows down to it. -/
theorem filter_rulesDownTo (cols : Nat) {depth deeper : Nat} (le : depth ≤ deeper) :
    (rulesDownTo cols deeper).filter (fun rule => decide (rule.target.row ≤ (depth : Int))) =
      rulesDownTo cols depth := by
  obtain ⟨more, rfl⟩ := Nat.exists_eq_add_of_le le
  have kept : (rulesDownTo cols depth).filter (fun rule => decide (rule.target.row ≤ (depth : Int))) =
      rulesDownTo cols depth := by
    refine List.filter_eq_self.mpr fun rule member => decide_eq_true ?_
    obtain ⟨above, inside, ofRow⟩ := List.mem_flatMap.mp member
    have := List.mem_range.mp inside
    have := rulesOfRow_row ofRow
    omega
  have dropped : ((List.range more).flatMap fun below => rulesOfRow cols (depth + below + 1)).filter
      (fun rule => decide (rule.target.row ≤ (depth : Int))) = [] := by
    refine List.filter_eq_nil_iff.mpr fun rule member => ?_
    obtain ⟨below, _, ofRow⟩ := List.mem_flatMap.mp member
    have := rulesOfRow_row ofRow
    simp only [decide_eq_true_eq]
    omega
  rw [rulesDownTo_append, List.filter_append, kept, dropped, List.append_nil]

/-! ## Records -/

theorem linesAfter_text {α : Type} (before : String) (line : α → String) (items : List α) :
    linesAfter before line items = before ++ linesAfter "" line items := by
  apply String.ext
  rw [String.toList_append, linesAfter_toList, linesAfter_toList]
  simp

/-- The records of the first rules are the start of the records of all. -/
theorem linesAfter_begins {α : Type} (line : α → String) {items others : List α} (front : items <+: others) :
    ∃ more, linesAfter "" line others = linesAfter "" line items ++ more := by
  obtain ⟨later, rfl⟩ := front
  refine ⟨linesAfter "" line later, ?_⟩
  rw [← linesAfter_text]
  simp [linesAfter]

/-! ## Rows -/

/-- What a sheet shows down to any row that it has rules for is the evolution of the row of cells. -/
theorem litGrid_take (root : List Bool) {rows cap depth : Nat} (within : depth ≤ min rows cap) :
    ∃ grid, (sheetOf rows root.length cap).litGrid root = .ok grid ∧
      grid.take depth = evolution (Tape.ofRow root) depth root.length := by
  have width : (root.length : Int) = (sheetOf rows root.length cap).cols := rfl
  refine ⟨_, litGrid_eq width (sheetOf_onTape rows root.length cap), ?_⟩
  have height : (sheetOf rows root.length cap).rows.toNat = rows := Int.toNat_natCast rows
  have columns : (sheetOf rows root.length cap).cols.toNat = root.length := Int.toNat_natCast root.length
  rw [height, columns, ← List.map_take, List.take_range, Nat.min_eq_left (by omega : depth ≤ rows), evolution]
  apply List.map_congr_left
  intro above inRow
  apply List.map_congr_left
  intro col inCol
  have rowInside := List.mem_range.mp inRow
  have lit := sheetOf_lit rows cap root above col (List.mem_range.mp inCol)
  rw [Bool.eq_iff_iff, decide_eq_true_iff]
  exact lit.trans (and_iff_right (by omega))

/-! ## Notes -/

/-- What a sheet tells of the rows that it leaves out. It is cut, and has a note, exactly if there are such rows; the
note names the first and the last one; they are the rows without rules; and only a last row with too many digits keeps
the note from being written. -/
structure TellsCut (s : Sheet) (rows cap : Nat) : Prop where
  cut : s.isCut = true ↔ cap < rows
  noted : s.note.isSome = true ↔ cap < rows
  named : ∀ note, s.note = some note → ∃ rest, note = Text.ofString
    ("Rows " ++ Decimal.ofInt (cap + 1) ++ "-" ++ Decimal.ofInt rows ++ " are not compiled;" ++ rest)
  bare : ∀ row : Int, (1 ≤ row ∧ row ≤ rows ∧ ∀ rule ∈ s.rules, rule.target.row ≠ row) ↔ cap + 1 ≤ row ∧ row ≤ rows
  written : s.checkNote = .ok s ↔ (cap < rows → Decimal.isWritable rows = true)

theorem cutNote_range (rows cap : Int) : ∃ rest, cutNote rows cap =
    "Rows " ++ Decimal.ofInt (cap + 1) ++ "-" ++ Decimal.ofInt rows ++ " are not compiled;" ++ rest := by
  refine ⟨" enumerating their input combinations beyond row " ++ Decimal.ofInt cap
    ++ " is too large for a stylesheet.", ?_⟩
  have split : " are not compiled; enumerating their input combinations beyond row " =
      " are not compiled;" ++ " enumerating their input combinations beyond row " := by decide
  rw [cutNote, split]
  simp only [String.append_assoc]

/-- A row has rules if it is one of those down to the compiled depth. -/
theorem sheetOf_hasRow {rows cols cap : Nat} (someCols : 1 ≤ cols) (row : Int) :
    (∃ rule ∈ (sheetOf rows cols cap).rules, rule.target.row = row) ↔ 1 ≤ row ∧ row ≤ (min rows cap : Nat) := by
  constructor
  · rintro ⟨rule, member, rfl⟩
    exact ((sheetOf_targets rows cols cap _ rule.target.col).mp ⟨rule, member, rfl⟩).1
  · intro inside
    obtain ⟨rule, member, target⟩ := (sheetOf_targets rows cols cap row 0).mpr ⟨inside, by omega⟩
    exact ⟨rule, member, by rw [target]⟩

theorem sheetOf_tellsCut (rows cap : Nat) {cols : Nat} (someCols : 1 ≤ cols) :
    TellsCut (sheetOf rows cols cap) rows cap := by
  have noteIs : (sheetOf rows cols cap).note = if rows > cap then some (Text.ofString (cutNote rows cap)) else none :=
    rfl
  refine ⟨?_, ?_, ?_, ?_, sheetOf_written_iff rows cols cap⟩
  · rw [Sheet.isCut, decide_eq_true_iff]
    simp only [sheetOf]
    omega
  · by_cases deep : cap < rows <;> simp [noteIs, deep]
  · intro note isNote
    obtain ⟨rest, text⟩ := cutNote_range rows cap
    by_cases deep : cap < rows
    · rw [noteIs, if_pos deep] at isNote
      exact ⟨rest, by rw [← Option.some.inj isNote, text]⟩
    · rw [noteIs, if_neg deep] at isNote
      cases isNote
  · intro row
    have bare : (∀ rule ∈ (sheetOf rows cols cap).rules, rule.target.row ≠ row) ↔
        ¬ (1 ≤ row ∧ row ≤ (min rows cap : Nat)) := by
      rw [← sheetOf_hasRow someCols row]
      simp
    rw [bare]
    omega

/-- A cap only cuts. Of two sheets of valid sizes and one width, the one that ends further up has the rules that the
other one has for its rows, which come first, in the sheet and in its records, which both have if the width can be
written; both show the same cells in these rows; and each tells by its note which rows it leaves out. -/
theorem cap_only_cuts (cols rows cap rows' cap' : Nat) (someCols : 1 ≤ cols) (someRows : 1 ≤ rows)
    (someCap : 1 ≤ cap) (capBound : cap ≤ maxCompiledRow) (someRows' : 1 ≤ rows') (someCap' : 1 ≤ cap')
    (capBound' : cap' ≤ maxCompiledRow) (above : min rows cap ≤ min rows' cap') :
    ∃ short long, compileSheet (.int rows) (.int cols) (.int cap) = .ok short ∧
      compileSheet (.int rows') (.int cols) (.int cap') = .ok long ∧
      short.rules = long.rules.filter (fun rule => decide (rule.target.row ≤ ((min rows cap : Nat) : Int))) ∧
      short.rules <+: long.rules ∧ (min rows cap = min rows' cap' → short.rules = long.rules) ∧
      (∃ more, long.recordsText = short.recordsText ++ more) ∧
      (Decimal.isWritable cols = true →
        short.records = .ok short.recordsText ∧ long.records = .ok long.recordsText) ∧
      (∀ root : List Bool, root.length = cols → ∃ grid taller, short.litGrid root = .ok grid ∧
        long.litGrid root = .ok taller ∧ (grid.take (min rows cap)).length = min rows cap ∧
        grid.take (min rows cap) = taller.take (min rows cap)) ∧
      TellsCut short rows cap ∧ TellsCut long rows' cap' := by
  refine ⟨_, _, compileSheet_eq someRows someCols someCap capBound,
    compileSheet_eq someRows' someCols someCap' capBound', ?_, ?_, ?_, ?_,
    fun few => ⟨sheetOf_records rows capBound few, sheetOf_records rows' capBound' few⟩, ?_,
    sheetOf_tellsCut rows cap someCols, sheetOf_tellsCut rows' cap' someCols⟩
  · rw [sheetOf_rules, sheetOf_rules, filter_rulesDownTo cols above]
  · rw [sheetOf_rules, sheetOf_rules]
    exact rulesDownTo_begins cols above
  · intro same
    rw [sheetOf_rules, sheetOf_rules, same]
  · obtain ⟨more, text⟩ := linesAfter_begins SheetRule.record (rulesDownTo_begins cols above)
    exact ⟨more, by rw [Sheet.recordsText, Sheet.recordsText, sheetOf_rules, sheetOf_rules, text]⟩
  · rintro root rfl
    obtain ⟨grid, lit, shown⟩ := litGrid_take root (Nat.le_refl (min rows cap))
    obtain ⟨taller, litTaller, shownTaller⟩ := litGrid_take root above
    refine ⟨grid, taller, lit, litTaller, ?_, shown.trans shownTaller.symm⟩
    rw [shown]
    simp [evolution]

/-- A grid of nine rows that is cut behind the first one, and a whole grid of two rows. -/
theorem cap_only_cuts_first_row :
    (1 ≤ 2 ∧ 1 ≤ 9 ∧ 1 ≤ 1 ∧ 1 ≤ maxCompiledRow ∧ 1 ≤ 6 ∧ 6 ≤ maxCompiledRow ∧ min 9 1 ≤ min 2 6) ∧
    ∃ short long, compileSheet (.int (9 : Nat)) (.int (2 : Nat)) (.int (1 : Nat)) = .ok short ∧
      compileSheet (.int (2 : Nat)) (.int (2 : Nat)) (.int (6 : Nat)) = .ok long ∧
      short.rules = long.rules.filter (fun rule => decide (rule.target.row ≤ ((min 9 1 : Nat) : Int))) ∧
      short.rules <+: long.rules ∧ short.note.isSome = true ∧ ¬ long.note.isSome = true ∧
      ∀ rule ∈ short.rules, rule.target.row ≠ 9 := by
  obtain ⟨short, long, made, made', rules, front, _, _, _, _, cut, whole⟩ := cap_only_cuts 2 9 1 2 6 (by decide)
    (by decide) (by decide) (by decide) (by decide) (by decide) (by decide) (by decide)
  refine ⟨by decide, short, long, made, made', rules, front, cut.noted.mpr (by decide), ?_,
    ((cut.bare 9).mpr (by decide)).2.2⟩
  exact fun noted => absurd (whole.noted.mp noted) (by decide)

end TapeSheet.Capping
