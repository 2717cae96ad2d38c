import TapeSheet.Proofs.Enumeration
import TapeSheet.Sheet

/-!
# The rules of one cell

What the predicates of a rule say about a row, and how the rules of a cell share its living assignments: an
assignment becomes a rule that holds on exactly those rows whose tape shows the assignment in the window
(`predicatesFrom_meets`), so one rule of a cell holds on a row where the cell is alive, and none where it is dead
(`countP_rulesOf`).
-/

namespace TapeSheet.Cover
open TapeSheet.LightCone TapeSheet.Enumeration

/-! ## Predicates on a row -/

/-- All predicates are about cells of the row. -/
def Inside (cols : Int) (predicates : List Predicate) : Prop := ∀ p ∈ predicates, 0 ≤ p.index ∧ p.index < cols

/-- All predicates hold on the tape of a row. -/
def Meets (root : List Bool) (predicates : List Predicate) : Prop :=
  ∀ p ∈ predicates, Tape.ofRow root p.index = p.asserted

instance (root : List Bool) (predicates : List Predicate) : Decidable (Meets root predicates) :=
  inferInstanceAs (Decidable (∀ p ∈ predicates, Tape.ofRow root p.index = p.asserted))

theorem inside_cons (cols : Int) (p : Predicate) (rest : List Predicate) :
    Inside cols (p :: rest) ↔ (0 ≤ p.index ∧ p.index < cols) ∧ Inside cols rest := List.forall_mem_cons

theorem meets_cons (root : List Bool) (p : Predicate) (rest : List Predicate) :
    Meets root (p :: rest) ↔ Tape.ofRow root p.index = p.asserted ∧ Meets root rest := List.forall_mem_cons

theorem itemAt_row (root : List Bool) (index : Int) (low : 0 ≤ index) (high : index < root.length) :
    itemAt root index = .ok (Tape.ofRow root index) := by
  obtain ⟨i, rfl⟩ := Int.eq_ofNat_of_zero_le low
  have inside : i < root.length := Int.ofNat_lt.mp high
  rw [itemAt_getElem root i inside, ofRow_getElem root i inside]

/-- Predicates about cells of the row are decided without a fault. -/
theorem allHold_eq (root : List Bool) (predicates : List Predicate) (inside : Inside root.length predicates) :
    SheetRule.allHold root predicates = .ok (decide (Meets root predicates)) := by
  induction predicates with
  | nil => simp [SheetRule.allHold, Meets]
  | cons p rest ih =>
    obtain ⟨⟨low, high⟩, insideRest⟩ := (inside_cons _ p rest).mp inside
    rw [SheetRule.allHold, itemAt_row root p.index low high]
    by_cases holds : Tape.ofRow root p.index = p.asserted
    · simp [holds, ih insideRest, meets_cons]
    · simp [holds, meets_cons]

theorem holdsOn_eq (rule : SheetRule) (root : List Bool) (inside : Inside root.length rule.predicates) :
    rule.holdsOn? root = .ok (decide (Meets root rule.predicates)) := allHold_eq root rule.predicates inside

/-! ## From an assignment to predicates -/

theorem predicatesFrom_inside {cols first : Int} {cells : Assignment} {predicates : List Predicate}
    (found : predicatesFrom cols first cells = .ok predicates) : Inside cols predicates := by
  induction cells generalizing first predicates with
  | nil =>
    cases found
    simp [Inside]
  | cons bit rest ih =>
    rw [predicatesFrom] at found
    by_cases onTape : 0 ≤ first ∧ first < cols
    · rw [if_pos onTape] at found
      cases tail : predicatesFrom cols (first + 1) rest with
      | error index => rw [tail] at found; cases found
      | ok more =>
        rw [tail] at found
        cases found
        exact (inside_cons ..).mpr ⟨onTape, ih tail⟩
    · rw [if_neg onTape] at found
      cases bit with
      | true => cases found
      | false => exact ih found

/-- The indices of the predicates ascend from the first one of the window on. -/
theorem predicatesFrom_ascending {cols first : Int} {cells : Assignment} {predicates : List Predicate}
    (found : predicatesFrom cols first cells = .ok predicates) :
    (∀ p ∈ predicates, first ≤ p.index) ∧ predicates.Pairwise fun p q => p.index < q.index := by
  induction cells generalizing first predicates with
  | nil =>
    cases found
    simp
  | cons bit rest ih =>
    rw [predicatesFrom] at found
    by_cases onTape : 0 ≤ first ∧ first < cols
    · rw [if_pos onTape] at found
      cases tail : predicatesFrom cols (first + 1) rest with
      | error index => rw [tail] at found; cases found
      | ok more =>
        rw [tail] at found
        cases found
        obtain ⟨later, ascending⟩ := ih tail
        refine ⟨?_, List.pairwise_cons.mpr ⟨?_, ascending⟩⟩
        · intro p member
          rcases List.mem_cons.mp member with rfl | member
          · exact Int.le_refl _
          · have := later p member
            omega
        · intro p member
          have := later p member
          simp only
          omega
    · rw [if_neg onTape] at found
      cases bit with
      | true => cases found
      | false =>
        obtain ⟨later, ascending⟩ := ih found
        exact ⟨fun p member => by have := later p member; omega, ascending⟩

/-- An assignment is what the tape of a row shows in the window if it is in reach and its predicates hold. -/
theorem predicatesFrom_meets (root : List Bool) (first : Int) (cells : Assignment) :
    window (Tape.ofRow root) first cells.length = cells ↔
      ∃ predicates, predicatesFrom root.length first cells = .ok predicates ∧ Meets root predicates := by
  induction cells generalizing first with
  | nil => simp [window, predicatesFrom, Meets]
  | cons bit rest ih =>
    simp only [List.length_cons, window, List.cons.injEq, ih (first + 1)]
    rw [predicatesFrom]
    by_cases onTape : 0 ≤ first ∧ first < root.length
    · rw [if_pos onTape]
      constructor
      · rintro ⟨cell, predicates, found, meets⟩
        exact ⟨⟨first, bit⟩ :: predicates, by rw [found]; rfl, (meets_cons ..).mpr ⟨cell, meets⟩⟩
      · rintro ⟨predicates, found, meets⟩
        cases tail : predicatesFrom root.length (first + 1) rest with
        | error index => rw [tail] at found; cases found
        | ok more =>
          rw [tail] at found
          cases found
          obtain ⟨cell, meetsRest⟩ := (meets_cons ..).mp meets
          exact ⟨cell, more, rfl, meetsRest⟩
    · rw [if_neg onTape, ofRow_outside root first (by omega)]
      cases bit with
      | true => simp
      | false => simp

/-! ## The rules of a cell -/

/-- The rule of an assignment in reach. -/
def emitted? (cols : Int) (target : Target) (first : Int) (cells : Assignment) : Option SheetRule :=
  match predicatesFrom cols first cells with
  | .ok predicates => some ⟨predicates, target⟩
  | .error _ => none

theorem emitted_eq_some {cols first : Int} {target : Target} {cells : Assignment} {rule : SheetRule}
    (found : emitted? cols target first cells = some rule) :
    predicatesFrom cols first cells = .ok rule.predicates ∧ rule.target = target := by
  unfold emitted? at found
  cases run : predicatesFrom cols first cells with
  | error index => rw [run] at found; cases found
  | ok predicates =>
    rw [run] at found
    cases found
    exact ⟨rfl, rfl⟩

/-- The rule of an assignment holds on the rows that show the assignment. -/
theorem emitted_meets (root : List Bool) (target : Target) (first : Int) (cells : Assignment) :
    ((emitted? root.length target first cells).map fun rule => decide (Meets root rule.predicates)).getD false = true ↔
      window (Tape.ofRow root) first cells.length = cells := by
  rw [predicatesFrom_meets]
  unfold emitted?
  cases run : predicatesFrom root.length first cells with
  | error index => simp
  | ok predicates => simp

/-- Assignments of the window's width become rules, those in reach in their order. -/
theorem rulesInReach_eq (w : Window) (target : Target) (cols : Int) (items : List Assignment)
    (sizes : ∀ cells ∈ items, (cells.length : Int) = w.width) :
    rulesInReach w target cols items = .ok (items.filterMap (emitted? cols target w.lo)) := by
  induction items with
  | nil => rfl
  | cons cells rest ih =>
    have size := sizes cells (by simp)
    have tail := ih (fun other member => sizes other (by simp [member]))
    rw [rulesInReach, ruleForAssignment, if_neg (by simp [size]), List.filterMap_cons, emitted?]
    cases run : predicatesFrom cols w.lo cells with
    | error index => exact tail
    | ok predicates => simp [tail, Except.map]

/-- The rules of a cell, in the order of its living assignments. -/
def rulesOf (row : Nat) (col cols : Int) : List SheetRule :=
  (living row).filterMap (emitted? cols ⟨row, col⟩ (col - row))

theorem living_width (row : Nat) (col : Int) (cells : Assignment) (member : cells ∈ living row) :
    (cells.length : Int) = (Window.mk (col - row) (col + row)).width := by
  have size := ((mem_living row cells).mp member).1
  rw [size]
  simp only [Window.width]
  omega

theorem rulesInReach_living (row : Nat) (col cols : Int) :
    rulesInReach ⟨col - row, col + row⟩ ⟨row, col⟩ cols (living row) = .ok (rulesOf row col cols) :=
  rulesInReach_eq _ _ _ _ (living_width row col)

theorem mem_rulesOf {row : Nat} {col cols : Int} {rule : SheetRule} (member : rule ∈ rulesOf row col cols) :
    rule.target = ⟨row, col⟩ ∧ Inside cols rule.predicates ∧
      rule.predicates.Pairwise fun p q => p.index < q.index := by
  obtain ⟨cells, _, found⟩ := List.mem_filterMap.mp member
  obtain ⟨run, target⟩ := emitted_eq_some found
  exact ⟨target, predicatesFrom_inside run, (predicatesFrom_ascending run).2⟩

/-- One rule of a cell holds on a row if the cell is alive below the row, and none if it is dead. -/
theorem countP_rulesOf (root : List Bool) (row : Nat) (col : Int) :
    (rulesOf row col root.length).countP (fun rule => decide (Meets root rule.predicates)) =
      if rule110.steps row (Tape.ofRow root) col then 1 else 0 := by
  have asCount : (rulesOf row col root.length).countP (fun rule => decide (Meets root rule.predicates)) =
      (living row).count (window (Tape.ofRow root) (col - row) (2 * row + 1)) := by
    rw [rulesOf, List.countP_filterMap, List.count]
    apply List.countP_congr
    intro cells member
    have size := ((mem_living row cells).mp member).1
    rw [emitted_meets, size, beq_iff_eq]
    exact eq_comm
  rw [asCount, (living_nodup row).count]
  simp only [window_mem_living]

/-- A cell below a row is alive if some rule of the cell holds on the row. -/
theorem some_rulesOf_meets (root : List Bool) (row : Nat) (col : Int) :
    (∃ rule ∈ rulesOf row col root.length, Meets root rule.predicates) ↔
      rule110.steps row (Tape.ofRow root) col = true := by
  have positive : 0 < (rulesOf row col root.length).countP (fun rule => decide (Meets root rule.predicates)) ↔
      rule110.steps row (Tape.ofRow root) col = true := by
    rw [countP_rulesOf]
    cases rule110.steps row (Tape.ofRow root) col <;> simp
  rw [← positive, List.countP_pos_iff]
  simp

/-! ## A cell by itself -/

theorem surveyCell_eq {row : Nat} (derived : 1 ≤ row) (col : Int) :
    surveyCell row col = .ok ⟨⟨col - row, col + row⟩, living row, 2 ^ (2 * row + 1) - (living row).length⟩ := by
  have window : Window.ofCell row col = .ok ⟨col - row, col + row⟩ := by
    unfold Window.ofCell
    rw [if_neg (by omega)]
  have width : (Window.mk (col - row) (col + row)).width.toNat = 2 * row + 1 := by
    simp only [Window.width]
    omega
  unfold surveyCell
  rw [window]
  simp only
  rw [livingAssignments_eq, width]
  rfl

/-- A cell that is compiled by itself gets the rules that it has in a sheet. -/
theorem cellRules_eq {row : Nat} (derived : 1 ≤ row) (col cols : Int) :
    cellRules row col cols = .ok (rulesOf row col cols) := by
  unfold cellRules
  rw [surveyCell_eq derived col]
  exact rulesInReach_living row col cols

/-- The rules of a cell are exclusive and complete, at any depth and wherever its window ends, also beside the row: all
    are for the cell, and on a row below which the cell is alive exactly one of them holds, on any other none. -/
theorem cell_rules_cover_exactly (row : Nat) (derived : 1 ≤ row) (col : Int) (root : List Bool) :
    ∃ rules, cellRules row col root.length = .ok rules ∧
      (∀ rule ∈ rules, rule.target = ⟨row, col⟩ ∧
        rule.holdsOn? root = .ok (decide (Meets root rule.predicates))) ∧
      rules.countP (fun rule => decide (Meets root rule.predicates)) =
        if rule110.steps row (Tape.ofRow root) col then 1 else 0 := by
  refine ⟨_, cellRules_eq derived col root.length, ?_, countP_rulesOf root row col⟩
  intro rule member
  obtain ⟨target, inside, _⟩ := mem_rulesOf member
  exact ⟨target, holdsOn_eq rule root inside⟩

/-- A cell left of the row comes alive, and its window reaches beyond both ends of the row. -/
theorem cell_rules_cover_exactly_beside :
    1 ≤ 3 ∧ ∃ rules, cellRules (3 : Nat) (-1) ([true, true].length : Nat) = .ok rules ∧
      rule110.steps 3 (Tape.ofRow [true, true]) (-1) = true ∧
      rules.countP (fun rule => decide (Meets [true, true] rule.predicates)) = 1 := by
  obtain ⟨rules, run, _, count⟩ := cell_rules_cover_exactly 3 (by decide) (-1) [true, true]
  exact ⟨by decide, rules, run, by decide, count⟩

end TapeSheet.Cover
