import TapeSheet.Proofs.LightCone
import TapeSheet.Limited

/-!
# Unfolding and reducing

The two ways to the cell below the middle of a window meet at every place, not only at the end: after a number of
steps the reduced window holds what unfolding gives in that row, as many columns further to the right as there were
steps (`stage_eq_unfoldCell`). Unfolding reads no column outside of the window. With room for no more nested
definitions than there are rows it runs out of room on its way down (`unfoldWithin_eq`), and a window of the wrong
length is refused alike in both ways.
-/

namespace TapeSheet.Unfolding
open TapeSheet.LightCone

/-! ## Lengths -/

/-- A window of `length` cells has a middle with `depth` cells on both sides. -/
def Fits (length : Nat) (depth : Int) : Prop := 0 ≤ depth ∧ (length : Int) = 2 * depth + 1

theorem exists_of_fits {length : Nat} {depth : Int} (fits : Fits length depth) :
    ∃ d : Nat, depth = d ∧ length = 2 * d + 1 := by
  obtain ⟨low, size⟩ := fits
  exact ⟨depth.toNat, by omega, by omega⟩

theorem checkLength_of_fits {length : Nat} {depth : Int} (fits : Fits length depth) :
    checkLength length depth = .ok () := by
  obtain ⟨d, rfl, rfl⟩ := exists_of_fits fits
  exact checkLength_ok d

theorem checkLength_of_misfit {length : Nat} {depth : Int} (misfit : ¬ Fits length depth) :
    checkLength length depth = .error (.shape (.window length depth)) := by
  unfold Fits at misfit
  unfold checkLength
  rw [if_pos (by omega)]

/-- A wrong length is reported, unless the right one has too many digits; the depth has no more of them. -/
theorem reported_window (length : Nat) (depth : Int) :
    (Fault.shape (.window length depth)).reported =
      if Decimal.isWritable (2 * depth + 1) then .shape (.window length depth) else .range .unwritableNumber := by
  have shorter : Decimal.isWritable (2 * depth + 1) = true → Decimal.isWritable depth = true := by
    simp only [Decimal.isWritable, decide_eq_true_eq]
    omega
  have shown : (Fault.shape (.window length depth)).shownValues = [depth, 2 * depth + 1].map .int := rfl
  rw [Fault.reported_ints shown]
  cases right : Decimal.isWritable (2 * depth + 1) with
  | true => simp [right, shorter right]
  | false => simp [right]

section Cells
variable {α : Type} [Cell α] (ρ : Rule) (window : List α)

/-! ## Stages of the reduction -/

/-- What is left of a window after a number of steps. -/
def stage (steps : Nat) : List Bool := ρ.reduceTimes steps (window.map Cell.alive)

theorem reduceTimes_succ (n : Nat) (row : List Bool) : ρ.reduceTimes (n + 1) row = ρ.reduce (ρ.reduceTimes n row) := by
  induction n generalizing row with
  | zero => rfl
  | succ n ih => rw [Rule.reduceTimes, ih, Rule.reduceTimes]

theorem reduce_length (row : List Bool) : (ρ.reduce row).length = row.length - 2 := by
  fun_induction Rule.reduce ρ row with
  | case1 l c r rest ih =>
    rw [List.length_cons, ih]
    simp
  | case2 row short =>
    match row, short with
    | [], _ => rfl
    | [_], _ => rfl
    | [_, _], _ => rfl
    | l :: c :: r :: rest, short => exact absurd rfl (short l c r rest)

/-- A reduced row has the outcomes of all neighbourhoods that lie in the row. -/
theorem reduce_getElem (row : List Bool) (i : Nat) (inside : i + 2 < row.length) :
    (ρ.reduce row)[i]? = some (ρ.outcome row[i] row[i + 1] row[i + 2]) := by
  induction row generalizing i with
  | nil => simp at inside
  | cons l rest ih =>
    match rest, ih, inside with
    | [], _, inside => exact absurd inside (by simp)
    | [_], _, inside => exact absurd inside (by simp)
    | c :: r :: more, ih, inside =>
      cases i with
      | zero => rfl
      | succ i => exact ih i (by simpa using inside)

theorem stage_succ (n : Nat) : stage ρ window (n + 1) = ρ.reduce (stage ρ window n) := reduceTimes_succ ρ n _

theorem stage_length (n : Nat) : (stage ρ window n).length = window.length - 2 * n := by
  induction n with
  | zero => simp [stage, Rule.reduceTimes]
  | succ n ih =>
    rw [stage_succ, reduce_length, ih]
    omega

/-! ## Unfolding -/

/-- After `row` steps a place holds what unfolding gives in that row, `row` columns further to the right. -/
theorem stage_eq_unfoldCell (row i : Nat) (inside : i < (stage ρ window row).length) :
    ρ.unfoldCell window row (row + i : Nat) = .ok (stage ρ window row)[i] := by
  induction row generalizing i with
  | zero =>
    have onWindow : i < window.length := by simpa [stage_length] using inside
    rw [Rule.unfoldCell, Nat.zero_add, itemAt_getElem window i onWindow]
    simp [Except.map, stage, Rule.reduceTimes]
  | succ row ih =>
    rw [stage_length] at inside
    have wide : i + 2 < (stage ρ window row).length := by
      rw [stage_length]
      omega
    have item := reduce_getElem ρ (stage ρ window row) i wide
    rw [← stage_succ] at item
    -- The three columns above are three neighbouring places of the stage before.
    have left : ((row + 1 + i : Nat) : Int) - 1 = (row + i : Nat) := by omega
    have center : ((row + 1 + i : Nat) : Int) = (row + (i + 1) : Nat) := by omega
    have right : ((row + (i + 1) : Nat) : Int) + 1 = (row + (i + 2) : Nat) := by omega
    rw [Rule.unfoldCell, left, center, right, ih i (by omega), ih (i + 1) (by omega), ih (i + 2) wide]
    obtain ⟨_, same⟩ := List.getElem?_eq_some_iff.mp item
    rw [same]
    rfl

/-- The columns of the window that unfolding a cell reads, in order. -/
def reads : Nat → Int → List Int
  | 0, col => [col]
  | row + 1, col => reads row (col - 1) ++ reads row col ++ reads row (col + 1)

theorem mem_reads (row : Nat) (col i : Int) : i ∈ reads row col ↔ col - row ≤ i ∧ i ≤ col + row := by
  induction row generalizing col with
  | zero =>
    simp only [reads, List.mem_singleton]
    omega
  | succ row ih =>
    simp only [reads, List.mem_append, ih]
    omega

/-- Unfolding depends on no column that it does not read. -/
theorem unfoldCell_congr {other : List α} {row : Nat} {col : Int}
    (agree : ∀ i ∈ reads row col, itemAt window i = itemAt other i) :
    ρ.unfoldCell window row col = ρ.unfoldCell other row col := by
  induction row generalizing col with
  | zero => rw [Rule.unfoldCell, Rule.unfoldCell, agree col (by simp [reads])]
  | succ row ih =>
    simp only [reads, List.mem_append] at agree
    rw [Rule.unfoldCell, Rule.unfoldCell, ih fun i member => agree i (.inl (.inl member)),
      ih fun i member => agree i (.inl (.inr member)), ih fun i member => agree i (.inr member)]

/-! ## Room for nested definitions -/

/-- Unfolding where no more than `room` definitions may be nested. -/
def unfoldWithin : Nat → Nat → Int → Except Fault Bool
  | 0, _, _ => .error (.nesting .unfolding)
  | _ + 1, 0, col => (itemAt window col).map Cell.alive
  | room + 1, row + 1, col => do
    let left ← unfoldWithin room row (col - 1)
    let center ← unfoldWithin room row col
    let right ← unfoldWithin room row (col + 1)
    pure (ρ.outcome left center right)

theorem unfoldWithin_eq (room row : Nat) (col : Int) :
    unfoldWithin ρ window room row col =
      if row < room then ρ.unfoldCell window row col else .error (.nesting .unfolding) := by
  induction room generalizing row col with
  | zero => rfl
  | succ room ih =>
    cases row with
    | zero => rfl
    | succ row =>
      rw [unfoldWithin, ih, ih, ih]
      by_cases enough : row < room
      · rw [if_pos enough, if_pos enough, if_pos enough, if_pos (Nat.succ_lt_succ enough)]
        rfl
      · -- The left one of the three is unfolded first, so it is the one that runs out of room.
        rw [if_neg enough, if_neg (fun more => enough (Nat.lt_of_succ_lt_succ more))]
        rfl

/-- The cell below the middle of a window, by unfolding with room for a number of nested definitions. -/
def unfoldIn (room : Nat) (depth : Int) : Except Fault Bool :=
  match checkLength window.length depth with
  | .error fault => .error fault
  | .ok () => unfoldWithin ρ window room depth.toNat depth

/-- Refusing deep windows in advance is as running out of room. -/
theorem limited_unfold_eq (depth : Int) :
    Limited.unfold ρ window depth = unfoldIn ρ window Limited.nestingLimit depth := by
  unfold Limited.unfold unfoldIn
  by_cases fits : Fits window.length depth
  · have low := fits.1
    rw [checkLength_of_fits fits]
    simp only [bind, Except.bind, unfoldWithin_eq, Rule.unfold, checkLength_of_fits fits]
    by_cases deep : (Limited.nestingLimit : Int) ≤ depth
    · rw [if_pos deep, if_neg (by omega)]
      rfl
    · rw [if_neg deep, if_pos (by omega)]
  · rw [checkLength_of_misfit fits]
    rfl

/-! ## Both ways -/

theorem cellBelow_of_misfit {depth : Int} (misfit : ¬ Fits window.length depth) :
    ρ.cellBelow window depth = .error (.shape (.window window.length depth)) := by
  unfold Rule.cellBelow
  rw [checkLength_of_misfit misfit]

theorem unfold_of_misfit {depth : Int} (misfit : ¬ Fits window.length depth) :
    ρ.unfold window depth = .error (.shape (.window window.length depth)) := by
  unfold Rule.unfold
  rw [checkLength_of_misfit misfit]

theorem unfoldIn_of_misfit {depth : Int} (misfit : ¬ Fits window.length depth) (room : Nat) :
    unfoldIn ρ window room depth = .error (.shape (.window window.length depth)) := by
  unfold unfoldIn
  rw [checkLength_of_misfit misfit]

/-- Both ways of reduction read places of the window and of its stages only. -/
structure ReadsInside (depth : Nat) : Prop where
  shorter : ∀ n < depth, (stage ρ window (n + 1)).length + 2 = (stage ρ window n).length
  stepped : ∀ n < depth, ∀ i, (inside : i + 2 < (stage ρ window n).length) →
    (stage ρ window (n + 1))[i]? =
      some (ρ.outcome (stage ρ window n)[i] (stage ρ window n)[i + 1] (stage ρ window n)[i + 2])
  left : (stage ρ window depth).length = 1
  unfolded : ∀ i ∈ reads depth depth, 0 ≤ i ∧ i < window.length
  complete : ∀ other : List α, (∀ i ∈ reads depth depth, itemAt window i = itemAt other i) →
    ρ.unfoldCell window depth depth = ρ.unfoldCell other depth depth

theorem readsInside_of_fits {d : Nat} (size : window.length = 2 * d + 1) : ReadsInside ρ window d where
  shorter n less := by
    rw [stage_length, stage_length]
    omega
  stepped n _ i inside := by
    rw [stage_succ]
    exact reduce_getElem ρ _ i inside
  left := by
    rw [stage_length]
    omega
  unfolded i member := by
    rw [mem_reads] at member
    omega
  complete _ agree := unfoldCell_congr ρ window agree

/-- A window of the right length has one last cell, in both ways. -/
theorem both_of_fits {d : Nat} (size : window.length = 2 * d + 1) :
    ∃ alive, ρ.cellBelow window d = .ok alive ∧ ρ.unfoldCell window d d = .ok alive := by
  have one : 0 < (stage ρ window d).length := by
    rw [stage_length]
    omega
  refine ⟨(stage ρ window d)[0], ?_, stage_eq_unfoldCell ρ window d 0 one⟩
  unfold Rule.cellBelow
  rw [size, checkLength_ok, Int.toNat_natCast]
  exact itemAt_getElem (stage ρ window d) 0 one

/-- A window with as many cells on both sides of its middle as there are steps has the same cell below it, step by step
and by unfolding, which runs out of room exactly where no more definitions may be nested than there are steps; neither
reads a place where nothing stands. Any other window is refused alike, and the refusal is reported unless the number of
cells that it asks for has too many digits. -/
theorem unfolding_agrees_with_reduction (depth : Int) :
    Limited.unfold ρ window depth = unfoldIn ρ window Limited.nestingLimit depth ∧
    (Fits window.length depth →
      (∃ alive, ρ.cellBelow window depth = .ok alive ∧ ρ.unfold window depth = .ok alive ∧
        ∀ room : Nat, unfoldIn ρ window room depth =
          if depth < room then .ok alive else .error (.nesting .unfolding)) ∧
      ReadsInside ρ window depth.toNat) ∧
    (¬ Fits window.length depth →
      ∃ fault, fault = .shape (.window window.length depth) ∧ ρ.cellBelow window depth = .error fault ∧
        ρ.unfold window depth = .error fault ∧ (∀ room, unfoldIn ρ window room depth = .error fault) ∧
        fault.reported = if Decimal.isWritable (2 * depth + 1) then fault else .range .unwritableNumber) := by
  refine ⟨limited_unfold_eq ρ window depth, fun fits => ?_, fun misfit => ?_⟩
  · have checked := checkLength_of_fits fits
    obtain ⟨d, rfl, size⟩ := exists_of_fits fits
    obtain ⟨alive, stepped, unfolded⟩ := both_of_fits ρ window size
    refine ⟨⟨alive, stepped, ?_, fun room => ?_⟩, readsInside_of_fits ρ window size⟩
    · unfold Rule.unfold
      rw [checked]
      exact unfolded
    · unfold unfoldIn
      rw [checked]
      simp only [Int.toNat_natCast, unfoldWithin_eq, unfolded, Int.ofNat_lt]
  · exact ⟨_, rfl, cellBelow_of_misfit ρ window misfit, unfold_of_misfit ρ window misfit,
      unfoldIn_of_misfit ρ window misfit, reported_window window.length depth⟩

end Cells

/-- Things of several kinds under a rule that tells left from right, with the least room that is enough and with less,
and a window without a middle. -/
theorem unfolding_agrees_with_reduction_lopsided :
    (Fits [Value.int 2, .null, .bool true, .list [], .list [.null]].length 2 ∧
      ∃ alive, (Rule.mk 30).cellBelow [Value.int 2, .null, .bool true, .list [], .list [.null]] 2 = .ok alive ∧
        unfoldIn (Rule.mk 30) [Value.int 2, .null, .bool true, .list [], .list [.null]] 3 2 = .ok alive ∧
        unfoldIn (Rule.mk 30) [Value.int 2, .null, .bool true, .list [], .list [.null]] 2 2 =
          .error (.nesting .unfolding)) ∧
    (¬ Fits [true, false].length 1 ∧ ∃ fault, rule110.cellBelow [true, false] 1 = .error fault ∧
      rule110.unfold [true, false] 1 = .error fault ∧ fault.reported = fault) := by
  constructor
  · have fits : Fits [Value.int 2, .null, .bool true, .list [], .list [.null]].length 2 := ⟨by decide, by decide⟩
    obtain ⟨⟨alive, stepped, _, unfolded⟩, _⟩ := (unfolding_agrees_with_reduction (Rule.mk 30)
      [Value.int 2, .null, .bool true, .list [], .list [.null]] 2).2.1 fits
    exact ⟨fits, alive, stepped, unfolded 3, unfolded 2⟩
  · have misfit : ¬ Fits [true, false].length 1 := fun fits => absurd fits.2 (by decide)
    obtain ⟨fault, _, stepped, unfolded, _, reported⟩ :=
      (unfolding_agrees_with_reduction rule110 [true, false] 1).2.2 misfit
    have few : Decimal.isWritable (2 * 1 + 1) = true := by decide +kernel
    rw [few, if_pos rfl] at reported
    exact ⟨misfit, fault, stepped, unfolded, reported⟩

theorem isWritable_of_half : Decimal.isWritable (2 * (Decimal.unwritable / 2 : Nat) + 1) = false := by
  unfold Decimal.isWritable
  exact decide_eq_false (by omega)

/-- A window for a thousand steps has a cell below it, but it is not unfolded; and where a window of one cell would have
to have a number of cells with too many digits, that number is the fault that is reported. -/
theorem deep_window_not_unfolded :
    (∃ alive, rule110.cellBelow (List.replicate 2001 false) 1000 = .ok alive ∧
      Limited.unfold rule110 (List.replicate 2001 false) 1000 = .error (.nesting .unfolding)) ∧
    ∃ fault, rule110.cellBelow [false] (Decimal.unwritable / 2 : Nat) = .error fault ∧
      Limited.unfold rule110 [false] (Decimal.unwritable / 2 : Nat) = .error fault ∧
      fault.reported = .range .unwritableNumber := by
  constructor
  · have size : (List.replicate 2001 false).length = 2 * 1000 + 1 := List.length_replicate
    obtain ⟨alive, stepped, unfolded⟩ := both_of_fits rule110 _ size
    refine ⟨alive, stepped, ?_⟩
    rw [limited_unfold_eq]
    unfold unfoldIn
    rw [checkLength_of_fits ⟨by decide, by rw [size]; rfl⟩]
    simp only [unfoldWithin_eq]
    rw [if_neg (by decide)]
  · have many : 2 ≤ Decimal.unwritable := by decide +kernel
    have misfit : ¬ Fits [false].length (Decimal.unwritable / 2 : Nat) := by
      rintro ⟨_, size⟩
      rw [List.length_singleton] at size
      omega
    refine ⟨_, cellBelow_of_misfit rule110 [false] misfit, ?_, ?_⟩
    · rw [limited_unfold_eq, unfoldIn_of_misfit rule110 [false] misfit]
    · rw [reported_window, isWritable_of_half]
      rfl

end TapeSheet.Unfolding
