import TapeSheet.Proofs.Compilation
import TapeSheet.Proofs.Frontier
import Mathlib.Data.List.Lex
import Mathlib.Data.Prod.Lex

/-!
# The canonical form of compiled sheets

The predicates of a compiled rule are about all cells of its window that are on the row (`predicatesFrom_indices`),
and cutting windows off at the ends of the row keeps the lexicographic order of their assignments
(`predicatesFrom_lt`). So the rules of a sheet stand in one order without repetition, and since some row makes each
cell alive, each compiled cell has a rule.
-/

namespace TapeSheet.CanonicalForm
open TapeSheet.LightCone TapeSheet.Enumeration TapeSheet.Cover TapeSheet.Compilation TapeSheet.Frontier

/-! ## Indices -/

theorem indices_empty {w : Window} (empty : w.hi < w.lo) : w.indices = [] := by
  have none : w.width.toNat = 0 := by
    simp only [Window.width]
    omega
  rw [Window.indices, none]
  rfl

theorem indices_cons {w : Window} (some : w.lo ≤ w.hi) : w.indices = w.lo :: (Window.mk (w.lo + 1) w.hi).indices := by
  have size : w.width.toNat = (Window.mk (w.lo + 1) w.hi).width.toNat + 1 := by
    simp only [Window.width]
    omega
  rw [Window.indices, size, List.range_succ_eq_map, List.map_cons, List.map_map, Window.indices]
  refine List.cons_eq_cons.mpr ⟨by omega, ?_⟩
  apply List.map_congr_left
  intro i _
  simp only [Function.comp_apply]
  omega

def onRow (w : Window) (cols : Int) : Window := ⟨max 0 w.lo, min (cols - 1) w.hi⟩

/-- The predicates of an assignment are about the part of its window that is on the row, from left to right. -/
theorem predicatesFrom_indices {cols first : Int} {cells : Assignment} {predicates : List Predicate}
    (found : predicatesFrom cols first cells = .ok predicates) :
    predicates.map (·.index) = (onRow ⟨first, first + cells.length - 1⟩ cols).indices := by
  induction cells generalizing first predicates with
  | nil =>
    cases found
    have empty : (onRow ⟨first, first + ([] : Assignment).length - 1⟩ cols).hi <
        (onRow ⟨first, first + ([] : Assignment).length - 1⟩ cols).lo := by
      simp only [onRow, List.length_nil]
      omega
    rw [indices_empty empty, List.map_nil]
  | cons bit rest ih =>
    have last : first + (bit :: rest).length - 1 = first + 1 + rest.length - 1 := by
      rw [List.length_cons]
      omega
    rw [predicatesFrom] at found
    rw [last]
    by_cases inside : 0 ≤ first ∧ first < cols
    · rw [if_pos inside] at found
      cases tail : predicatesFrom cols (first + 1) rest with
      | error index => rw [tail] at found; cases found
      | ok more =>
        rw [tail] at found
        cases found
        have some : (onRow ⟨first, first + 1 + rest.length - 1⟩ cols).lo ≤
            (onRow ⟨first, first + 1 + rest.length - 1⟩ cols).hi := by
          simp only [onRow]
          omega
        rw [List.map_cons, ih tail, indices_cons some]
        simp only [onRow, Int.max_eq_right inside.1, Int.max_eq_right (by omega : 0 ≤ first + 1)]
    · rw [if_neg inside] at found
      cases bit with
      | true => cases found
      | false =>
        rw [ih found]
        by_cases before : first < 0
        · simp only [onRow, Int.max_eq_left before.le, Int.max_eq_left (by omega : first + 1 ≤ 0)]
        · rw [indices_empty, indices_empty]
          · simp only [onRow]
            omega
          · simp only [onRow]
            omega

theorem rulesOf_indices {row : Nat} {col cols : Int} {rule : SheetRule} (member : rule ∈ rulesOf row col cols) :
    rule.predicates.map (·.index) = (onRow ⟨col - row, col + row⟩ cols).indices := by
  obtain ⟨cells, ofLiving, found⟩ := List.mem_filterMap.mp member
  have size := ((mem_living row cells).mp ofLiving).1
  have last : col - row + (cells.length : Int) - 1 = col + row := by
    rw [size]
    omega
  rw [predicatesFrom_indices (emitted_eq_some found).1, last]

/-! ## The order of rules -/

/-- States that the predicates of a rule assert, from left to right. -/
def bits (predicates : List Predicate) : List Bool := predicates.map (·.asserted)

/-- Assignments of one window keep their order where the window is cut off at the ends of the row. -/
theorem predicatesFrom_lt {cols first : Int} {cells others : Assignment} {predicates more : List Predicate}
    (size : cells.length = others.length) (less : cells < others)
    (found : predicatesFrom cols first cells = .ok predicates)
    (foundOther : predicatesFrom cols first others = .ok more) : bits predicates < bits more := by
  induction cells generalizing first others predicates more with
  | nil =>
    obtain rfl := List.length_eq_zero_iff.mp size.symm
    exact absurd less (List.not_lt_nil [])
  | cons bit rest ih =>
    cases others with
    | nil => cases size
    | cons bit' rest' =>
      have order := List.cons_lt_cons_iff.mp less
      rw [predicatesFrom] at found foundOther
      by_cases inside : 0 ≤ first ∧ first < cols
      · rw [if_pos inside] at found foundOther
        cases tail : predicatesFrom cols (first + 1) rest with
        | error index => rw [tail] at found; cases found
        | ok later =>
          cases tail' : predicatesFrom cols (first + 1) rest' with
          | error index => rw [tail'] at foundOther; cases foundOther
          | ok later' =>
            rw [tail] at found
            rw [tail'] at foundOther
            cases found
            cases foundOther
            simp only [bits, List.map_cons]
            rw [List.cons_lt_cons_iff]
            exact order.imp_right fun later => ⟨later.1, ih (Nat.succ.inj size) later.2 tail tail'⟩
      · -- Beyond the row both bits are dead, so the assignments differ behind them.
        rw [if_neg inside] at found foundOther
        cases bit with
        | true => cases found
        | false =>
          cases bit' with
          | true => cases foundOther
          | false =>
            rcases order with first | ⟨_, restLess⟩
            · exact absurd first (by decide)
            · exact ih (Nat.succ.inj size) restLess found foundOther

/-- The place of a rule in the order by rows, columns and asserted states. -/
def place (rule : SheetRule) : ℤ ×ₗ ℤ ×ₗ List Bool :=
  toLex (rule.target.row, toLex (rule.target.col, bits rule.predicates))

theorem place_lt (a b : SheetRule) : place a < place b ↔ a.target.row < b.target.row ∨
    a.target.row = b.target.row ∧
      (a.target.col < b.target.col ∨ a.target.col = b.target.col ∧ bits a.predicates < bits b.predicates) := by
  rw [place, place, Prod.Lex.toLex_lt_toLex, Prod.Lex.toLex_lt_toLex]

theorem rulesOf_sorted (row : Nat) (col cols : Int) :
    (rulesOf row col cols).Pairwise fun a b => place a < place b := by
  rw [rulesOf, List.pairwise_filterMap]
  apply (living_sorted row).imp_of_mem
  intro cells others ofLiving ofLiving' less a foundA b foundB
  obtain ⟨runA, targetA⟩ := emitted_eq_some foundA
  obtain ⟨runB, targetB⟩ := emitted_eq_some foundB
  have size : cells.length = others.length :=
    ((mem_living row cells).mp ofLiving).1.trans ((mem_living row others).mp ofLiving').1.symm
  rw [place_lt, targetA, targetB]
  exact .inr ⟨rfl, .inr ⟨rfl, predicatesFrom_lt size less runA runB⟩⟩

theorem rulesOfRow_sorted (cols row : Nat) : (rulesOfRow cols row).Pairwise fun a b => place a < place b := by
  rw [rulesOfRow, List.pairwise_flatMap]
  refine ⟨fun col _ => rulesOf_sorted row col cols, ?_⟩
  apply List.pairwise_lt_range.imp
  intro col col' less a ofCol b ofCol'
  rw [place_lt, (mem_rulesOf ofCol).1, (mem_rulesOf ofCol').1]
  exact .inr ⟨rfl, .inl (Int.ofNat_lt.mpr less)⟩

theorem sheetOf_sorted (rows cols cap : Nat) :
    (sheetOf rows cols cap).rules.Pairwise fun a b => place a < place b := by
  rw [sheetOf, List.pairwise_flatMap]
  refine ⟨fun above _ => rulesOfRow_sorted cols (above + 1), ?_⟩
  apply List.pairwise_lt_range.imp
  intro above above' less a ofRow b ofRow'
  obtain ⟨col, _, ofCol⟩ := List.mem_flatMap.mp ofRow
  obtain ⟨col', _, ofCol'⟩ := List.mem_flatMap.mp ofRow'
  rw [place_lt, (mem_rulesOf ofCol).1, (mem_rulesOf ofCol').1]
  exact .inl (Int.ofNat_lt.mpr (Nat.succ_lt_succ less))

theorem sheetOf_nodup (rows cols cap : Nat) : (sheetOf rows cols cap).rules.Nodup := by
  apply (sheetOf_sorted rows cols cap).imp
  rintro a _ less rfl
  exact lt_irrefl (place a) less

/-! ## Targets -/

theorem exists_rulesOf {cols col : Nat} (inside : col < cols) (row : Nat) :
    ∃ rule, rule ∈ rulesOf row (col : Nat) cols := by
  have alive := steps_single inside row
  rw [← some_rulesOf_meets, single_length] at alive
  obtain ⟨rule, member, _⟩ := alive
  exact ⟨rule, member⟩

theorem sheetOf_targets (rows cols cap : Nat) (row col : Int) :
    (∃ rule ∈ (sheetOf rows cols cap).rules, rule.target = ⟨row, col⟩) ↔
      (1 ≤ row ∧ row ≤ (min rows cap : Nat)) ∧ 0 ≤ col ∧ col < cols := by
  constructor
  · rintro ⟨rule, member, target⟩
    obtain ⟨⟨above, rowInside, col', colInside, same⟩, _⟩ := sheetOf_rule member
    rw [target, Target.mk.injEq] at same
    omega
  · rintro ⟨⟨low, high⟩, left, right⟩
    obtain ⟨above, rfl⟩ : ∃ above : Nat, row = (above + 1 : Nat) := ⟨(row - 1).toNat, by omega⟩
    obtain ⟨c, rfl⟩ := Int.eq_ofNat_of_zero_le left
    have inside : c < cols := by omega
    obtain ⟨rule, member⟩ := exists_rulesOf inside (above + 1)
    exact ⟨rule, (mem_sheetOf ..).mpr ⟨above, by omega, c, inside, member⟩, (mem_rulesOf member).1⟩

theorem sheetOf_indices {rows cols cap : Nat} {rule : SheetRule} (member : rule ∈ (sheetOf rows cols cap).rules) :
    rule.predicates.map (·.index) =
      (Window.mk (max 0 (rule.target.col - rule.target.row))
        (min (cols - 1) (rule.target.col + rule.target.row))).indices := by
  obtain ⟨above, _, col, _, ofCell⟩ := (mem_sheetOf ..).mp member
  rw [(mem_rulesOf ofCell).1, rulesOf_indices ofCell, onRow]

/-- The sheet of valid sizes has one form. A rule is about all cells of its window that are on the row, from left to
    right; the rules stand in the order of rows, columns and asserted states, none of them twice; and the cells with
    rules are those of the rows down to the compiled depth. Compiling gives the sheet unless its note cannot be
    written. -/
theorem compiled_sheet_is_canonical (rows cols cap : Nat) (someRows : 1 ≤ rows) (someCols : 1 ≤ cols)
    (someCap : 1 ≤ cap) (capBound : cap ≤ maxCompiledRow) :
    ∃ sheet, compileSheet (.int rows) (.int cols) (.int cap) = .ok sheet ∧
      (compiled (.int rows) (.int cols) (.int cap) = .ok sheet ↔ (cap < rows → Decimal.isWritable rows = true)) ∧
      (∀ rule ∈ sheet.rules,
        rule.predicates.map (·.index) =
          (Window.mk (max 0 (rule.target.col - rule.target.row))
            (min (cols - 1) (rule.target.col + rule.target.row))).indices ∧
        ∀ p ∈ rule.predicates, 0 ≤ p.index ∧ p.index < cols) ∧
      (sheet.rules.Pairwise fun a b => place a < place b) ∧ sheet.rules.Nodup ∧
      ∀ row col : Int, (∃ rule ∈ sheet.rules, rule.target = ⟨row, col⟩) ↔
        (1 ≤ row ∧ row ≤ (min rows cap : Nat)) ∧ 0 ≤ col ∧ col < cols := by
  refine ⟨_, compileSheet_eq someRows someCols someCap capBound, compiled_iff someRows someCols someCap capBound, ?_,
    sheetOf_sorted rows cols cap, sheetOf_nodup rows cols cap, sheetOf_targets rows cols cap⟩
  intro rule member
  exact ⟨sheetOf_indices member, (sheetOf_rule member).2.1⟩

/-- Windows that reach beyond both ends of a row of two cells. -/
theorem compiled_sheet_is_canonical_narrow :
    (1 ≤ 3 ∧ 1 ≤ 2 ∧ 1 ≤ 2 ∧ 2 ≤ maxCompiledRow) ∧
    ∃ sheet, compileSheet (.int (3 : Nat)) (.int (2 : Nat)) (.int (2 : Nat)) = .ok sheet ∧
      (∃ rule ∈ sheet.rules, rule.target = ⟨2, 0⟩ ∧ rule.predicates.map (·.index) = [0, 1]) ∧
      ¬ ∃ rule ∈ sheet.rules, rule.target = ⟨3, 0⟩ := by
  obtain ⟨sheet, made, _, indices, _, _, targets⟩ := compiled_sheet_is_canonical 3 2 2 (by decide) (by decide)
    (by decide) (by decide)
  obtain ⟨rule, member, target⟩ := (targets 2 0).mpr (by decide)
  have noDeeper : ¬ ∃ rule ∈ sheet.rules, rule.target = ⟨3, 0⟩ :=
    fun deeper => absurd ((targets 3 0).mp deeper) (by decide)
  refine ⟨by decide, sheet, made, ⟨rule, member, target, ?_⟩, noDeeper⟩
  rw [(indices rule member).1, target]
  decide

end TapeSheet.CanonicalForm
