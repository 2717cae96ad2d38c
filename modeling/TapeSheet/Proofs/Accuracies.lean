import TapeSheet.Command.Batch
import TapeSheet.Proofs.Rounding
import TapeSheet.Proofs.Scoring

/-!
# Accuracies in four places

A sheet is scored by the cells in which its rows differ from the evolution (`renders_iff`, `showsEvolution_iff`). The
text for the summary is that of the lowest score on a preset (`lowestAccuracy_eq`). It is a full one if one cell in 20000
is wrong, but not if one in 19999 is (`lowest_of_few`, `hardlyWrong_of_lowest`).
-/

namespace TapeSheet.Accuracies
open TapeSheet.Display TapeSheet.LightCone TapeSheet.Rounding TapeSheet.Scoring

/-! ## Differences of grids -/

section Differences
variable {α : Type} [BEq α]

theorem rowDifference_self [ReflBEq α] (cells : List α) : rowDifference cells cells = 0 := by
  induction cells with
  | nil => rfl
  | cons x xs ih => rw [rowDifference, ih, if_pos BEq.rfl]

theorem gridDifference_self [ReflBEq α] (rows : List (List α)) : gridDifference rows rows = 0 := by
  induction rows with
  | nil => rfl
  | cons row rest ih => rw [gridDifference, rowDifference_self, ih]

theorem rowDifference_le (xs ys : List α) : rowDifference xs ys ≤ max xs.length ys.length := by
  induction xs generalizing ys with
  | nil => simp [rowDifference]
  | cons x xs ih =>
    cases ys with
    | nil => simp [rowDifference]
    | cons y ys =>
      have := ih ys
      simp only [rowDifference, List.length_cons]
      split <;> omega

/-- A grid with rows of one length differs from one with some of the rows in no more cells than it has. -/
theorem gridDifference_le {n : Nat} {a b : List (List α)} (fewer : b.length ≤ a.length)
    (size : ∀ row ∈ a, row.length = n) (otherSize : ∀ row ∈ b, row.length = n) : gridDifference a b ≤ a.length * n := by
  induction a generalizing b with
  | nil =>
    obtain rfl := List.length_eq_zero_iff.mp (Nat.le_zero.mp fewer)
    exact Nat.zero_le _
  | cons row rest ih =>
    obtain ⟨here, later⟩ := List.forall_mem_cons.mp size
    rw [List.length_cons, Nat.succ_mul]
    cases b with
    | nil =>
      have counted := ih (Nat.zero_le _) later (fun _ member => absurd member List.not_mem_nil)
      have none : gridDifference rest ([] : List (List α)) = cellCount rest := by cases rest <;> rfl
      rw [none] at counted
      rw [gridDifference, cellCount, here]
      · omega
      · exact List.cons_ne_nil _ _
    | cons other others =>
      obtain ⟨otherHere, otherLater⟩ := List.forall_mem_cons.mp otherSize
      have counted := ih (Nat.le_of_succ_le_succ fewer) later otherLater
      have differs := rowDifference_le row other
      rw [gridDifference]
      omega

end Differences

/-! ## Tapes -/

/-- A sheet shows some number of cells of the rows down to its depth otherwise than the evolution of a row, or not at
all. -/
def Renders (s : Sheet) (root : List Bool) (wrong : Nat) : Prop :=
  ∃ expected lit, evolvedGrid root s.maxRow = .ok expected ∧ s.litGrid root = .ok lit ∧
    gridDifference expected (lit.take s.maxRow.toNat) = wrong

/-- A sheet shows the evolution of a row down to its depth. -/
def ShowsEvolution (s : Sheet) (root : List Bool) : Prop :=
  ∃ expected lit, evolvedGrid root s.maxRow = .ok expected ∧ s.litGrid root = .ok lit ∧
    lit.take s.maxRow.toNat = expected

/-- Cells of the rows down to the depth of a sheet. -/
def cellsOf (s : Sheet) : Nat := s.maxRow.toNat * s.cols.toNat

/-- Less than one in 19999 of the cells that a sheet shows on a row is wrong, and none on a grid of less than 20000. -/
def HardlyWrong (s : Sheet) (root : List Bool) : Prop :=
  (∃ wrong, Renders s root wrong ∧ 19999 * wrong < cellsOf s) ∧ (cellsOf s < 20000 → ShowsEvolution s root)

/-- The score of a sheet whose predicates are about cells of a row. -/
def scoreOf (s : Sheet) (root : List Bool) : Score where
  wrong := gridDifference (evolution (Tape.ofRow root) s.maxRow.toNat s.cols.toNat)
    (shown s root (min s.maxRow.toNat s.rows.toNat))
  cells := cellsOf s

section Tapes
variable {s : Sheet} {root : List Bool}

theorem shown_take (s : Sheet) (root : List Bool) (rows n : Nat) :
    (shown s root rows).take n = shown s root (min n rows) := by
  rw [shown, ← List.map_take, List.take_range, shown]

/-- The rows that a sheet is compared with. -/
theorem evolvedGrid_of_row (someRows : 1 ≤ s.maxRow) (size : (root.length : Int) = s.cols) :
    evolvedGrid root s.maxRow = .ok (evolution (Tape.ofRow root) s.maxRow.toNat s.cols.toNat) := by
  have width : root.length = s.cols.toNat := by omega
  have expected := evolvedGrid_eq root s.maxRow.toNat
  rwa [Int.toNat_of_nonneg (by omega), width] at expected

theorem litGrid_shown (onTape : OnTape s) (size : (root.length : Int) = s.cols) :
    s.litGrid root = .ok (shown s root s.rows.toNat) := litGrid_eq size onTape

theorem renders_iff (someRows : 1 ≤ s.maxRow) (onTape : OnTape s) (size : (root.length : Int) = s.cols) {wrong : Nat} :
    Renders s root wrong ↔ (scoreOf s root).wrong = wrong := by
  unfold Renders
  rw [evolvedGrid_of_row someRows size, litGrid_shown onTape size]
  constructor
  · rintro ⟨_, _, same, same', differs⟩
    cases same
    cases same'
    rwa [shown_take] at differs
  · intro differs
    exact ⟨_, _, rfl, rfl, by rwa [shown_take]⟩

theorem wrong_le (s : Sheet) (root : List Bool) : (scoreOf s root).wrong ≤ (scoreOf s root).cells := by
  have le := gridDifference_le (n := s.cols.toNat)
    (a := evolution (Tape.ofRow root) s.maxRow.toNat s.cols.toNat)
    (b := shown s root (min s.maxRow.toNat s.rows.toNat))
    (by simp [evolution, shown]) (by simp [evolution]) fun _ member => by
      obtain ⟨_, _, rfl⟩ := List.mem_map.mp member
      simp
  rwa [evolution, List.length_map, List.length_range] at le

theorem cells_pos (someCols : 1 ≤ s.cols) (someRows : 1 ≤ s.maxRow) : 0 < (scoreOf s root).cells :=
  Nat.mul_pos (by omega) (by omega)

theorem showsEvolution_of_right (someCols : 1 ≤ s.cols) (someRows : 1 ≤ s.maxRow) (onTape : OnTape s)
    (size : (root.length : Int) = s.cols) (right : (scoreOf s root).wrong = 0) : ShowsEvolution s root := by
  refine ⟨_, _, evolvedGrid_of_row someRows size, litGrid_shown onTape size, ?_⟩
  -- A grid that ends above the depth lacks cells, and these count as wrong.
  have deep : s.maxRow.toNat ≤ s.rows.toNat := by
    by_contra shallow
    have lacking := difference_of_shallow root someCols (Nat.lt_of_not_le shallow)
    exact absurd right (Nat.pos_iff_ne_zero.mp lacking)
  have each := wrongCells_card_eq_zero.mp ((difference_of_deep root deep).symm.trans right)
  rw [shown_take, Nat.min_eq_left deep, shown, evolution]
  apply List.map_congr_left
  intro above rowInside
  apply List.map_congr_left
  intro col colInside
  have rowInside := List.mem_range.mp rowInside
  have colInside := List.mem_range.mp colInside
  have cell := each (above + 1) col (by omega) (by omega) (by omega) (by omega)
  rw [Bool.eq_iff_iff, decide_eq_true_iff]
  exact cell

/-- A sheet shows the evolution if none of its cells is wrong. -/
theorem showsEvolution_iff (someCols : 1 ≤ s.cols) (someRows : 1 ≤ s.maxRow) (onTape : OnTape s)
    (size : (root.length : Int) = s.cols) : ShowsEvolution s root ↔ (scoreOf s root).wrong = 0 := by
  refine ⟨?_, showsEvolution_of_right someCols someRows onTape size⟩
  rintro ⟨expected, lit, evolves, lights, same⟩
  apply (renders_iff someRows onTape size).mp
  exact ⟨expected, lit, evolves, lights, by rw [same, gridDifference_self]⟩

theorem hardlyWrong_of_high (someCols : 1 ≤ s.cols) (someRows : 1 ≤ s.maxRow) (onTape : OnTape s)
    (size : (root.length : Int) = s.cols) (high : 19999 * Binary64.one ≤ 20000 * unitsOf (scoreOf s root)) :
    HardlyWrong s root := by
  have few : 19999 * (scoreOf s root).wrong < cellsOf s := few_of_high (cells_pos someCols someRows) high
  refine ⟨⟨_, (renders_iff someRows onTape size).mpr rfl, few⟩, ?_⟩
  intro small
  exact showsEvolution_of_right someCols someRows onTape size (by omega)

end Tapes

/-! ## Rows of presets -/

theorem take_length (n : Nat) (stream : RandomBits.Stream) : (stream.take n).length = n := by
  induction n generalizing stream with
  | zero => rfl
  | succ n ih => exact congrArg Nat.succ (ih _)

theorem source_length {source : PresetSource} {cols : Nat} {seed : Int} {root : List Bool}
    (made : source.row cols seed = .ok root) : root.length = cols := by
  cases source with
  | generated generator =>
    rw [PresetSource.row] at made
    split at made
    · cases made
    · cases made
      cases generator with
      | noise => exact take_length cols _
      | _ => simp [Generator.row, rowWhere]
  | pattern cells =>
    cases made
    simp [placed, rowWhere]

theorem presetRow_length {key : Value} {cols seed : Int} {root : List Bool}
    (made : presetRow key cols seed = .ok root) : (root.length : Int) = cols := by
  unfold presetRow at made
  split at made
  · cases made
  · cases made
  · cases made
  · split at made
    · cases made
    · split at made
      · cases made
      · have := source_length made
        omega

theorem source_row (source : PresetSource) (cols : Nat) : ∃ root, source.row cols defaultSeed = .ok root := by
  cases source with
  | generated _ => exact ⟨_, rfl⟩
  | pattern _ => exact ⟨_, rfl⟩

theorem presetRow_ok {key : String} (known : key ∈ Preset.keys) {cols : Nat} (some : 1 ≤ cols) :
    ∃ root, presetRow (.ofString key) cols defaultSeed = .ok root := by
  obtain ⟨preset, listed, rfl⟩ := List.mem_map.mp known
  have itself : (Value.ofString preset.key == .ofString preset.key) = true := by
    change Value.same (.text _) (.text _) = true
    rw [Value.same, beq_self_eq_true]
  cases found : Preset.catalogue.find? fun other => Value.ofString preset.key == .ofString other.key with
  | none => exact absurd itself (List.find?_eq_none.mp found preset listed)
  | some own =>
    have row : presetRow (.ofString preset.key) cols defaultSeed = own.source.row cols defaultSeed := by
      unfold presetRow
      simp only [Value.ofString] at found ⊢
      rw [found]
      simp only
      rw [if_neg (by omega), Int.toNat_natCast]
    rw [row]
    exact source_row own.source cols

/-! ## The lowest accuracy -/

/-- Going through numbers for the lower one ends at one of them that is not above any other. -/
theorem foldl_lower (units : List Nat) (first : Nat) :
    ∃ lowest ∈ first :: units, (units.map (Binary64.finite false)).foldl lower (.finite false first) =
      .finite false lowest ∧ ∀ u ∈ first :: units, lowest ≤ u := by
  induction units generalizing first with
  | nil => exact ⟨first, by simp, rfl, by simp⟩
  | cons u units ih =>
    obtain ⟨lowest, member, folded, least⟩ := ih (min first u)
    have step : lower (.finite false first) (.finite false u) = .finite false (min first u) := by
      simp only [lower, Binary64.lt, Binary64.signedUnits, Bool.false_eq_true, if_false, decide_eq_true_eq]
      split
      · rw [Nat.min_eq_right (by omega)]
      · rw [Nat.min_eq_left (by omega)]
    refine ⟨lowest, ?_, by rw [List.map_cons, List.foldl_cons, step, folded], ?_⟩
    · rcases List.mem_cons.mp member with rfl | later
      · rcases min_choice first u with same | same <;> simp [same]
      · simp [later]
    · have := least (min first u) (by simp)
      simp only [List.forall_mem_cons] at least ⊢
      exact ⟨by omega, by omega, least.2⟩

/-- The row of a preset whose key is known. -/
def presetRoot (cols : Nat) (key : String) : List Bool :=
  (presetRow (.ofString key) cols defaultSeed).toOption.getD []

section Lowest
variable {s : Sheet} {cols : Nat}

theorem presetRoot_eq (some : 1 ≤ cols) {key : String} (known : key ∈ Preset.keys) :
    presetRow (.ofString key) cols defaultSeed = .ok (presetRoot cols key) := by
  obtain ⟨root, row⟩ := presetRow_ok known some
  rw [presetRoot, row]
  rfl

/-- The accuracy of a sheet on a preset. -/
def presetScore (s : Sheet) (cols : Nat) (key : String) : Except Fault Binary64 := do
  let root ← presetRow (.ofString key) cols defaultSeed
  let score ← s.scoreOn root
  pure score.double

theorem presetScore_eq (width : s.cols = cols) (some : 1 ≤ cols) (someRows : 1 ≤ s.maxRow) (onTape : OnTape s)
    {key : String} (known : key ∈ Preset.keys) :
    presetScore s cols key = .ok (.finite false (unitsOf (scoreOf s (presetRoot cols key)))) := by
  have row := presetRoot_eq some known
  have size := presetRow_length row
  have score : s.scoreOn (presetRoot cols key) = .ok (scoreOf s (presetRoot cols key)) :=
    scoreOn_eq (by omega) someRows onTape (by omega)
  unfold presetScore
  rw [row]
  simp only [bind, Except.bind]
  rw [score, ← double_eq (cells_pos (by omega) someRows) (wrong_le s _)]
  rfl

/-- The text for the summary is that of the lowest accuracy on a preset. -/
theorem lowestAccuracy_eq (width : s.cols = cols) (some : 1 ≤ cols) (someRows : 1 ≤ s.maxRow) (onTape : OnTape s) :
    ∃ lowest, lowestAccuracy s cols = .ok ((Binary64.finite false lowest).fixed 4) ∧
      (∀ key ∈ Preset.keys, lowest ≤ unitsOf (scoreOf s (presetRoot cols key))) ∧
      ∃ key ∈ Preset.keys, lowest = unitsOf (scoreOf s (presetRoot cols key)) := by
  have all : (Preset.keys.mapM fun key => do
      let root ← presetRow (.ofString key) cols defaultSeed
      let score ← s.scoreOn root
      pure score.double) =
      .ok (Preset.keys.map fun key => .finite false (unitsOf (scoreOf s (presetRoot cols key)))) :=
    mapM_ok (presetScore s cols) _ Preset.keys fun key known => presetScore_eq width some someRows onTape known
  obtain ⟨firstKey, otherKeys, keys⟩ : ∃ firstKey otherKeys, Preset.keys = firstKey :: otherKeys := ⟨_, _, rfl⟩
  obtain ⟨lowest, member, folded, least⟩ := foldl_lower
    (otherKeys.map fun key => unitsOf (scoreOf s (presetRoot cols key)))
    (unitsOf (scoreOf s (presetRoot cols firstKey)))
  rw [List.map_map] at folded
  rw [← List.map_cons (f := fun key => unitsOf (scoreOf s (presetRoot cols key))), ← keys] at member least
  refine ⟨lowest, ?_, fun key known => least _ (List.mem_map_of_mem known), ?_⟩
  · unfold lowestAccuracy
    rw [all, keys]
    exact congrArg (fun x => Except.ok (Binary64.fixed 4 x)) folded
  · obtain ⟨key, known, same⟩ := List.mem_map.mp member
    exact ⟨key, known, same.symm⟩

/-- A full accuracy bounds the wrong cells on all presets. -/
theorem hardlyWrong_of_lowest (width : s.cols = cols) (some : 1 ≤ cols) (someRows : 1 ≤ s.maxRow) (onTape : OnTape s)
    (full : lowestAccuracy s cols = .ok "1.0000") {key : String} (known : key ∈ Preset.keys) :
    ∃ root, presetRow (.ofString key) cols defaultSeed = .ok root ∧ HardlyWrong s root := by
  have row := presetRoot_eq some known
  have size := presetRow_length row
  obtain ⟨lowest, text, least, _⟩ := lowestAccuracy_eq width some someRows onTape
  have high := high_of_full (Except.ok.inj (text.symm.trans full))
  have le := least key known
  exact ⟨_, row, hardlyWrong_of_high (by omega) someRows onTape (by omega) (by omega)⟩

/-- At most one wrong cell in 20000 on every preset makes the accuracy a full one. -/
theorem lowest_of_few (width : s.cols = cols) (some : 1 ≤ cols) (someRows : 1 ≤ s.maxRow) (onTape : OnTape s)
    (few : ∀ key ∈ Preset.keys, 20000 * (scoreOf s (presetRoot cols key)).wrong ≤ cellsOf s) :
    lowestAccuracy s cols = .ok "1.0000" := by
  obtain ⟨lowest, text, _, key, known, rfl⟩ := lowestAccuracy_eq width some someRows onTape
  rw [text, full_of_high (unitsOf_le _) (high_of_few (cells_pos (by omega) someRows) (few key known))]

end Lowest

end TapeSheet.Accuracies
