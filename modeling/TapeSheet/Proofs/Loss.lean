import TapeSheet.Proofs.Scoring

/-!
# Lost rules

Every rule of a compiled sheet holds on some row (`exists_meets`), and no two rules for one cell hold on the same row
(`holding_unique`). So a sheet that lacks some rules of a compiled one has as many wrong cells as lost rules hold
(`wrongCells_of_loss`), and its score tells them.
-/

namespace TapeSheet.Loss
open TapeSheet.LightCone TapeSheet.Cover TapeSheet.Compilation TapeSheet.Display TapeSheet.Scoring

/-! ## Rules that hold -/

/-- Ascending predicates are about different cells, so some row meets them all. -/
theorem exists_meets {cols : Nat} {predicates : List Predicate} (inside : Inside cols predicates)
    (ascending : predicates.Pairwise fun p q => p.index < q.index) :
    ∃ root : List Bool, root.length = cols ∧ Meets root predicates := by
  refine ⟨(List.range cols).map fun (i : Nat) => decide (⟨i, true⟩ ∈ predicates), by simp, ?_⟩
  have indices : (predicates.map (·.index)).Nodup := by
    rw [List.Nodup, List.pairwise_map]
    exact ascending.imp fun less => ne_of_lt less
  intro p member
  obtain ⟨low, high⟩ := inside p member
  obtain ⟨i, index⟩ := Int.eq_ofNat_of_zero_le low
  rw [index, ofRow_getElem _ i (by simp; omega)]
  simp only [List.getElem_map, List.getElem_range]
  cases asserted : p.asserted with
  | true =>
    have same : (⟨i, true⟩ : Predicate) = p := by
      rw [← index, ← asserted]
    rw [same]
    exact decide_eq_true member
  | false =>
    apply decide_eq_false
    intro opposite
    have same := List.inj_on_of_nodup_map indices opposite member index.symm
    rw [← same] at asserted
    cases asserted

section Compiled
variable {rows cap : Nat} {root : List Bool}

/-- A rule that holds lights a living cell of the compiled part of the grid. -/
theorem holding_lives {rule : SheetRule} (member : rule ∈ (sheetOf rows root.length cap).rules)
    (holds : Meets root rule.predicates) :
    ∃ above < min rows cap, ∃ col < root.length, rule.target = ⟨above + 1, col⟩ ∧
      rule110.steps (above + 1) (Tape.ofRow root) col = true := by
  obtain ⟨above, rowInside, col, colInside, ofCell⟩ := (mem_sheetOf ..).mp member
  exact ⟨above, rowInside, col, colInside, (mem_rulesOf ofCell).1,
    (some_rulesOf_meets root (above + 1) col).mp ⟨rule, ofCell, holds⟩⟩

theorem eq_of_countP_le_one {α : Type} {items : List α} {p : α → Bool} (few : items.countP p ≤ 1) {x y : α}
    (xMember : x ∈ items) (xHolds : p x = true) (yMember : y ∈ items) (yHolds : p y = true) : x = y := by
  rw [List.countP_eq_length_filter] at few
  have xFound := List.mem_filter.mpr ⟨xMember, xHolds⟩
  have yFound := List.mem_filter.mpr ⟨yMember, yHolds⟩
  match found : items.filter p with
  | [] => rw [found] at xFound; cases xFound
  | [z] =>
    rw [found] at xFound yFound
    rw [List.mem_singleton.mp xFound, List.mem_singleton.mp yFound]
  | _ :: _ :: _ => rw [found] at few; simp at few

theorem holding_unique {a b : SheetRule} (aMember : a ∈ (sheetOf rows root.length cap).rules)
    (bMember : b ∈ (sheetOf rows root.length cap).rules) (sameTarget : a.target = b.target)
    (aHolds : Meets root a.predicates) (bHolds : Meets root b.predicates) : a = b := by
  obtain ⟨above, _, col, _, aOfCell⟩ := (mem_sheetOf ..).mp aMember
  obtain ⟨above', _, col', _, bOfCell⟩ := (mem_sheetOf ..).mp bMember
  rw [(mem_rulesOf aOfCell).1, (mem_rulesOf bOfCell).1, Target.mk.injEq] at sameTarget
  obtain rfl : above = above' := by omega
  obtain rfl : col = col' := by omega
  have few : (rulesOf (above + 1) col root.length).countP (fun rule => decide (Meets root rule.predicates)) ≤ 1 := by
    rw [countP_rulesOf]
    split <;> omega
  exact eq_of_countP_le_one few aOfCell (decide_eq_true aHolds) bOfCell (decide_eq_true bHolds)

end Compiled

/-! ## Sheets that lack rules -/

/-- A sheet is another one without some of its rules. -/
structure Lacks (kept full : Sheet) (lost : Finset SheetRule) : Prop where
  rows : kept.rows = full.rows
  cols : kept.cols = full.cols
  maxRow : kept.maxRow = full.maxRow
  rules : kept.rules = full.rules.filter (· ∉ lost)

section Losses
variable {rows cap : Nat} {root : List Bool} {lost : Finset SheetRule} {kept : Sheet}

theorem mem_kept {full : Sheet} (lacks : Lacks kept full lost) (rule : SheetRule) :
    rule ∈ kept.rules ↔ rule ∈ full.rules ∧ rule ∉ lost := by
  rw [lacks.rules, List.mem_filter, decide_eq_true_iff]

theorem kept_onTape {cols : Nat} (lacks : Lacks kept (sheetOf rows cols cap) lost) : OnTape kept := by
  intro rule member
  rw [lacks.cols]
  exact sheetOf_onTape rows cols cap rule ((mem_kept lacks rule).mp member).1

/-- A cell is wrong exactly if a lost rule for it holds. -/
theorem wrong_iff (lacks : Lacks kept (sheetOf rows root.length cap) lost)
    (some : ∀ rule ∈ lost, rule ∈ (sheetOf rows root.length cap).rules) {above col : Nat}
    (rowInside : above < min rows cap) (colInside : col < root.length) :
    ¬ (Lit kept root ⟨above + 1, col⟩ ↔ rule110.steps (above + 1) (Tape.ofRow root) col = true) ↔
      ∃ rule ∈ lost, rule.target = ⟨above + 1, col⟩ ∧ Meets root rule.predicates := by
  rw [← and_iff_right (a := above < min rows cap) (b := rule110.steps _ _ _ = true) rowInside,
    ← sheetOf_lit rows cap root above col colInside]
  constructor
  · intro wrong
    by_contra none
    apply wrong
    constructor
    · rintro ⟨rule, member, target, holds⟩
      exact ⟨rule, ((mem_kept lacks rule).mp member).1, target, holds⟩
    · rintro ⟨rule, member, target, holds⟩
      have notLost : rule ∉ lost := fun isLost => none ⟨rule, isLost, target, holds⟩
      exact ⟨rule, (mem_kept lacks rule).mpr ⟨member, notLost⟩, target, holds⟩
  · rintro ⟨rule, isLost, target, holds⟩ same
    obtain ⟨other, member, otherTarget, otherHolds⟩ := same.mpr ⟨rule, some rule isLost, target, holds⟩
    obtain ⟨ofFull, notLost⟩ := (mem_kept lacks other).mp member
    obtain rfl := holding_unique ofFull (some rule isLost) (otherTarget.trans target.symm) otherHolds holds
    exact notLost isLost

def coordinates (t : Target) : ℕ × ℕ := ((t.row - 1).toNat, t.col.toNat)

theorem coordinates_mk (above col : Nat) : coordinates ⟨above + 1, col⟩ = (above, col) := by
  simp [coordinates]

/-- The wrong cells are the targets of the lost rules that hold, each the target of one. -/
theorem wrongCells_of_loss (lacks : Lacks kept (sheetOf rows root.length cap) lost)
    (some : ∀ rule ∈ lost, rule ∈ (sheetOf rows root.length cap).rules) :
    (wrongCells kept root).card = (lost.filter fun rule => Meets root rule.predicates).card := by
  have depth : kept.maxRow.toNat = min rows cap := by
    rw [lacks.maxRow, sheetOf, Int.toNat_natCast]
  have width : kept.cols.toNat = root.length := by
    rw [lacks.cols, sheetOf, Int.toNat_natCast]
  symm
  -- A lost rule that holds is sent to its target; no other one that holds has the same.
  apply Finset.card_bij fun rule _ => coordinates rule.target
  · intro rule member
    obtain ⟨isLost, holds⟩ := Finset.mem_filter.mp member
    obtain ⟨above, rowInside, col, colInside, target, _⟩ := holding_lives (some rule isLost) holds
    rw [target, coordinates_mk, wrongCells, Finset.mem_filter, Finset.mem_product, Finset.mem_range, Finset.mem_range,
      depth, width]
    exact ⟨⟨rowInside, colInside⟩, (wrong_iff lacks some rowInside colInside).mpr ⟨rule, isLost, target, holds⟩⟩
  · intro a aMember b bMember same
    obtain ⟨aLost, aHolds⟩ := Finset.mem_filter.mp aMember
    obtain ⟨bLost, bHolds⟩ := Finset.mem_filter.mp bMember
    obtain ⟨above, _, col, _, aTarget, _⟩ := holding_lives (some a aLost) aHolds
    obtain ⟨above', _, col', _, bTarget, _⟩ := holding_lives (some b bLost) bHolds
    rw [aTarget, bTarget, coordinates_mk, coordinates_mk] at same
    obtain ⟨rfl, rfl⟩ := Prod.mk.inj same
    exact holding_unique (some a aLost) (some b bLost) (aTarget.trans bTarget.symm) aHolds bHolds
  · rintro ⟨above, col⟩ member
    rw [wrongCells, Finset.mem_filter, Finset.mem_product, Finset.mem_range, Finset.mem_range, depth, width] at member
    obtain ⟨⟨rowInside, colInside⟩, wrong⟩ := member
    obtain ⟨rule, isLost, target, holds⟩ := (wrong_iff lacks some rowInside colInside).mp wrong
    exact ⟨rule, Finset.mem_filter.mpr ⟨isLost, holds⟩, by rw [target, coordinates_mk]⟩

theorem scoreOn_of_loss (lacks : Lacks kept (sheetOf rows root.length cap) lost)
    (some : ∀ rule ∈ lost, rule ∈ (sheetOf rows root.length cap).rules) (someCols : 1 ≤ root.length)
    (someRows : 1 ≤ min rows cap) :
    ∃ score, kept.scoreOn root = .ok score ∧ 0 < score.cells ∧
      score.wrong = (lost.filter fun rule => Meets root rule.predicates).card ∧
      share score = 1 - (lost.filter fun rule => Meets root rule.predicates).card / ((kept.maxRow : ℚ) * kept.cols) := by
  have depth : kept.maxRow = (min rows cap : Nat) := lacks.maxRow
  have width : kept.cols = root.length := lacks.cols
  have deep : kept.maxRow.toNat ≤ kept.rows.toNat := by
    have height : kept.rows = rows := lacks.rows
    omega
  have someCells : 0 < kept.maxRow.toNat * kept.cols.toNat := Nat.mul_pos (by omega) (by omega)
  have exactly : ((kept.maxRow.toNat * kept.cols.toNat : Nat) : ℚ) = (kept.maxRow : ℚ) * kept.cols := by
    rw [depth, width, Int.toNat_natCast, Int.toNat_natCast]
    push_cast
    rfl
  refine ⟨_, scoreOn_eq (by omega) (by omega) (kept_onTape lacks) width.symm, someCells, ?_, ?_⟩
  · rw [difference_of_deep root deep, wrongCells_of_loss lacks some]
  · rw [difference_of_deep root deep, share_of_le someCells wrongCells_card_le, exactly, wrongCells_of_loss lacks some]

end Losses

/-- No rule of the sheet of valid sizes is redundant, and its score tells every loss. Each rule holds on some row, a
    sheet that lacks rules is scored by those of them that hold, and so it is perfect on all rows only if it lacks
    none. Compiling gives the sheet unless its note cannot be written. -/
theorem compiled_rules_are_needed (rows cols cap : Nat) (someRows : 1 ≤ rows) (someCols : 1 ≤ cols)
    (someCap : 1 ≤ cap) (capBound : cap ≤ maxCompiledRow) :
    ∃ sheet, compileSheet (.int rows) (.int cols) (.int cap) = .ok sheet ∧
      (compiled (.int rows) (.int cols) (.int cap) = .ok sheet ↔ (cap < rows → Decimal.isWritable rows = true)) ∧
      (∀ rule ∈ sheet.rules, ∃ root : List Bool, root.length = cols ∧ rule.holdsOn? root = .ok true) ∧
      ∀ (lost : Finset SheetRule) (kept : Sheet), (∀ rule ∈ lost, rule ∈ sheet.rules) → Lacks kept sheet lost →
        (∀ root : List Bool, root.length = cols →
          (∀ rule ∈ lost, rule.holdsOn? root = .ok (decide (Meets root rule.predicates))) ∧
          ∃ score, kept.scoreOn root = .ok score ∧
            share score =
              1 - (lost.filter fun rule => Meets root rule.predicates).card / ((kept.maxRow : ℚ) * kept.cols)) ∧
        (lost.Nonempty → ∃ root : List Bool, root.length = cols ∧
          ∃ score, kept.scoreOn root = .ok score ∧ share score < 1) ∧
        (lost = ∅ → ∀ root : List Bool, root.length = cols →
          ∃ score, kept.scoreOn root = .ok score ∧ share score = 1) := by
  have decided : ∀ rule ∈ (sheetOf rows cols cap).rules, ∀ root : List Bool, root.length = cols →
      rule.holdsOn? root = .ok (decide (Meets root rule.predicates)) := by
    rintro rule member root rfl
    exact holdsOn_eq rule root (sheetOf_rule member).2.1
  have satisfiable : ∀ rule ∈ (sheetOf rows cols cap).rules, ∃ root : List Bool, root.length = cols ∧
      Meets root rule.predicates := by
    intro rule member
    obtain ⟨_, inside, ascending⟩ := sheetOf_rule member
    exact exists_meets inside ascending
  refine ⟨_, compileSheet_eq someRows someCols someCap capBound, compiled_iff someRows someCols someCap capBound, ?_, ?_⟩
  · intro rule member
    obtain ⟨root, size, meets⟩ := satisfiable rule member
    exact ⟨root, size, by rw [decided rule member root size, decide_eq_true meets]⟩
  · intro lost kept some lacks
    refine ⟨?_, ?_, ?_⟩
    · rintro root rfl
      obtain ⟨score, run, _, _, value⟩ := scoreOn_of_loss lacks some someCols (by omega)
      exact ⟨fun rule isLost => decided rule (some rule isLost) root rfl, score, run, value⟩
    · rintro ⟨rule, isLost⟩
      obtain ⟨root, rfl, meets⟩ := satisfiable rule (some rule isLost)
      obtain ⟨score, run, someCells, wrong, _⟩ := scoreOn_of_loss lacks some someCols (by omega)
      have holding : 0 < (lost.filter fun rule => Meets root rule.predicates).card :=
        Finset.card_pos.mpr ⟨rule, Finset.mem_filter.mpr ⟨isLost, meets⟩⟩
      refine ⟨root, rfl, score, run, lt_of_le_of_ne (share_le_one score) ?_⟩
      intro full
      have := (share_eq_one_iff someCells).mp full
      omega
    · rintro rfl root rfl
      obtain ⟨score, run, someCells, wrong, _⟩ := scoreOn_of_loss lacks some someCols (by omega)
      exact ⟨score, run, (share_eq_one_iff someCells).mpr (by rw [wrong, Finset.filter_empty, Finset.card_empty])⟩

/-- A rule for the first cell of a row of two living cells. -/
def bothAlive : SheetRule := ⟨[⟨0, true⟩, ⟨1, true⟩], ⟨1, 0⟩⟩

/-- The sheet of one row of two cells without the rule for two living cells. -/
def withoutBothAlive : Sheet :=
  { sheetOf 1 2 1 with rules := (sheetOf 1 2 1).rules.filter (· ∉ ({bothAlive} : Finset SheetRule)) }

theorem compiled_rules_are_needed_pair :
    (1 ≤ 1 ∧ 1 ≤ 2 ∧ 1 ≤ maxCompiledRow) ∧
    ∃ sheet, compileSheet (.int (1 : Nat)) (.int (2 : Nat)) (.int (1 : Nat)) = .ok sheet ∧
      (∀ rule ∈ ({bothAlive} : Finset SheetRule), rule ∈ sheet.rules) ∧ Lacks withoutBothAlive sheet {bothAlive} ∧
      [true, true].length = 2 ∧ ({bothAlive} : Finset SheetRule).Nonempty ∧
      (∃ score, withoutBothAlive.scoreOn [true, true] = .ok score ∧
        share score = 1 - (({bothAlive} : Finset SheetRule).filter fun rule => Meets [true, true] rule.predicates).card /
          ((withoutBothAlive.maxRow : ℚ) * withoutBothAlive.cols) ∧
        (({bothAlive} : Finset SheetRule).filter fun rule => Meets [true, true] rule.predicates).card = 1) ∧
      ∃ root : List Bool, root.length = 2 ∧ ∃ score, withoutBothAlive.scoreOn root = .ok score ∧ share score < 1 := by
  obtain ⟨sheet, made, _, _, losses⟩ := compiled_rules_are_needed 1 2 1 (by decide) (by decide) (by decide) (by decide)
  obtain rfl : sheetOf 1 2 1 = sheet :=
    Except.ok.inj ((compileSheet_eq (by decide) (by decide) (by decide) (by decide)).symm.trans made)
  have some : ∀ rule ∈ ({bothAlive} : Finset SheetRule), rule ∈ (sheetOf 1 2 1).rules := by decide
  have lacks : Lacks withoutBothAlive (sheetOf 1 2 1) {bothAlive} := ⟨rfl, rfl, rfl, rfl⟩
  obtain ⟨exactly, below, _⟩ := losses {bothAlive} withoutBothAlive some lacks
  obtain ⟨_, score, run, value⟩ := exactly [true, true] rfl
  exact ⟨by decide, _, made, some, lacks, rfl, ⟨bothAlive, Finset.mem_singleton_self _⟩,
    ⟨score, run, value, by decide⟩, below ⟨bothAlive, Finset.mem_singleton_self _⟩⟩

end TapeSheet.Loss
