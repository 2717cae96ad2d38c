import TapeSheet.Proofs.Equality
import TapeSheet.Proofs.Scoring

/-!
# Agreement of grids of any shape

Rows of two grids may have different lengths, and one grid may have more rows than the other. The difference of such
grids does not depend on which one comes first (`gridDifference_comm`), nothing differs exactly if the grids agree once
the shorter one gets empty rows (`gridDifference_eq_zero`), and grids of one shape differ in their cells alone
(`gridDifference_of_shape`). The score inherits all of this (`agreement_faithful`).
-/

namespace TapeSheet.Agreement
open TapeSheet.Value TapeSheet.Scoring TapeSheet.Equality

/-! ## Cells -/

section Cells
variable {α : Type} {a b : List (List α)}

/-- Two grids have equally many rows, of the same lengths one by one. -/
def SameShape (a b : List (List α)) : Prop := a.map List.length = b.map List.length

/-- A grid has a cell. -/
def HasCells (a : List (List α)) : Prop := ∃ row ∈ a, row ≠ []

/-- A grid with empty rows at its end, so that it has at least a number of rows. -/
def extended (rows : Nat) (a : List (List α)) : List (List α) := a ++ List.replicate (rows - a.length) []

theorem extended_cons (rows : Nat) (row : List α) (a : List (List α)) :
    extended (rows + 1) (row :: a) = row :: extended rows a := by
  simp [extended]

theorem cellCount_eq (a : List (List α)) : cellCount a = a.flatten.length := by
  induction a with
  | nil => rfl
  | cons row rest ih => rw [cellCount, ih, List.flatten_cons, List.length_append]

theorem cellCount_pos : 0 < cellCount a ↔ HasCells a := by
  rw [cellCount_eq, List.length_pos_iff, Ne, List.flatten_eq_nil_iff, HasCells]
  simp only [not_forall, exists_prop]

theorem cellCount_of_shape (shape : SameShape a b) : cellCount a = cellCount b := by
  rw [cellCount_eq, cellCount_eq, List.length_flatten, List.length_flatten, shape]

end Cells

/-! ## Differences -/

section Differences
variable {α : Type} [BEq α]

/-- Cells of both grids are equal one way exactly if they are equal the other way. -/
def ComparedAlike (xs ys : List α) : Prop := ∀ x ∈ xs, ∀ y ∈ ys, (x == y) = (y == x)

theorem rowDifference_nil (cells : List α) : rowDifference cells [] = cells.length := by cases cells <;> rfl

theorem gridDifference_nil (rows : List (List α)) : gridDifference rows [] = cellCount rows := by cases rows <;> rfl

theorem rowDifference_comm {xs ys : List α} (alike : ComparedAlike xs ys) :
    rowDifference xs ys = rowDifference ys xs := by
  induction xs generalizing ys with
  | nil => rw [rowDifference_nil]; rfl
  | cons x xs ih =>
    cases ys with
    | nil => rfl
    | cons y ys =>
      have first := alike x (by simp) y (by simp)
      have later : ComparedAlike xs ys := fun x' member y' member' =>
        alike x' (by simp [member]) y' (by simp [member'])
      rw [rowDifference, rowDifference, first, ih later]

theorem gridDifference_comm {a b : List (List α)} (alike : ComparedAlike a.flatten b.flatten) :
    gridDifference a b = gridDifference b a := by
  induction a generalizing b with
  | nil => rw [gridDifference_nil]; rfl
  | cons row rest ih =>
    cases b with
    | nil => rfl
    | cons other others =>
      have first : ComparedAlike row other := fun x member y member' =>
        alike x (by simp [member]) y (by simp [member'])
      have later : ComparedAlike rest.flatten others.flatten := fun x member y member' =>
        alike x (List.mem_append_right row member) y (List.mem_append_right other member')
      rw [gridDifference, gridDifference, rowDifference_comm first, ih later]

/-- Two rows are of one length, and their cells are equal one by one. -/
def RowsAgree (xs ys : List α) : Prop := List.Forall₂ (fun x y => (x == y) = true) xs ys

theorem rowDifference_eq_zero {xs ys : List α} : rowDifference xs ys = 0 ↔ RowsAgree xs ys := by
  unfold RowsAgree
  induction xs generalizing ys with
  | nil => cases ys <;> simp [rowDifference]
  | cons x xs ih =>
    cases ys with
    | nil => simp [rowDifference]
    | cons y ys =>
      rw [List.forall₂_cons, ← ih, rowDifference]
      cases x == y <;> simp

/-- Two grids agree row by row, where the one with fewer rows gets empty ones. -/
def GridsAgree (a b : List (List α)) : Prop := List.Forall₂ RowsAgree (extended b.length a) (extended a.length b)

theorem agree_emptyRows {rows : List (List α)} :
    (List.Forall₂ RowsAgree rows (List.replicate rows.length []) ↔ cellCount rows = 0) ∧
    (List.Forall₂ RowsAgree (List.replicate rows.length []) rows ↔ cellCount rows = 0) := by
  induction rows with
  | nil => simp [cellCount]
  | cons row rest ih =>
    rw [List.length_cons, List.replicate_succ, List.forall₂_cons, List.forall₂_cons, ih.1, ih.2, cellCount,
      Nat.add_eq_zero_iff, RowsAgree, RowsAgree, List.forall₂_nil_right_iff, List.forall₂_nil_left_iff,
      List.length_eq_zero_iff]
    exact ⟨Iff.rfl, Iff.rfl⟩

theorem gridDifference_eq_zero {a b : List (List α)} : gridDifference a b = 0 ↔ GridsAgree a b := by
  induction a generalizing b with
  | nil =>
    -- Rows that have no cells agree with the empty rows that stand in for them.
    have whole : GridsAgree [] b ↔ cellCount b = 0 := by simpa [GridsAgree, extended] using agree_emptyRows.2
    rw [whole]
    rfl
  | cons row rest ih =>
    cases b with
    | nil =>
      have whole : GridsAgree (row :: rest) [] ↔ cellCount (row :: rest) = 0 := by
        rw [← (@agree_emptyRows _ _ (row :: rest)).1]
        simp [GridsAgree, extended]
      rw [whole, gridDifference_nil]
    | cons other others =>
      rw [GridsAgree, List.length_cons, List.length_cons, extended_cons, extended_cons, List.forall₂_cons, gridDifference,
        Nat.add_eq_zero_iff, rowDifference_eq_zero, ih, GridsAgree]

/-- The cells that stand at one place in two grids of one shape and differ. -/
def differing (a b : List (List α)) : List (α × α) := (a.flatten.zip b.flatten).filter fun cells => cells.1 != cells.2

theorem rowDifference_of_length {xs ys : List α} (size : xs.length = ys.length) :
    rowDifference xs ys = ((xs.zip ys).filter fun cells => cells.1 != cells.2).length := by
  induction xs generalizing ys with
  | nil => cases ys with
    | nil => rfl
    | cons y ys => cases size
  | cons x xs ih =>
    cases ys with
    | nil => cases size
    | cons y ys =>
      rw [rowDifference, ih (Nat.succ.inj size), List.zip_cons_cons, List.filter_cons]
      cases same : x == y <;> simp [bne, same, Nat.add_comm]

theorem gridDifference_of_shape {a b : List (List α)} (shape : SameShape a b) :
    gridDifference a b = (differing a b).length := by
  induction a generalizing b with
  | nil => cases b with
    | nil => rfl
    | cons other others => cases shape
  | cons row rest ih =>
    cases b with
    | nil => cases shape
    | cons other others =>
      obtain ⟨size, shape⟩ := List.cons.inj shape
      rw [gridDifference, ih shape, rowDifference_of_length size, differing, differing, List.flatten_cons,
        List.flatten_cons, List.zip_append size, List.filter_append, List.length_append]

theorem length_differing_le (a b : List (List α)) : (differing a b).length ≤ cellCount a := by
  rw [cellCount_eq]
  refine (List.length_filter_le _ _).trans ?_
  rw [List.length_zip]
  exact Nat.min_le_left _ _

end Differences

/-! ## Scores -/

section Scores
variable {α : Type} [BEq α] {a b : List (List α)}

theorem agreement_of_cells (some : HasCells a) :
    agreement a b = ⟨gridDifference a b, max (cellCount a) (cellCount b)⟩ := by
  have := cellCount_pos.mpr some
  rw [agreement, if_neg (by omega)]

theorem agreement_of_empty (none : ¬ HasCells a) : share (agreement a b) = 0 := by
  have empty : cellCount a = 0 := Nat.eq_zero_of_not_pos (mt cellCount_pos.mp none)
  rw [agreement, if_pos empty]
  norm_num [share, Score.zero]

theorem share_nonneg (s : Score) : 0 ≤ share s := le_max_left ..

/-- Two grids of which one has no cells do not agree at all. -/
theorem agreement_with_empty (some : HasCells a) (none : ¬ HasCells b) : share (agreement a b) = 0 := by
  have empty : cellCount b = 0 := Nat.eq_zero_of_not_pos (mt cellCount_pos.mp none)
  have lacking := cellCount_le_gridDifference a b
  have cells := cellCount_pos.mpr some
  -- All cells of the first grid are wrong, so the share is cut off at nothing.
  rw [agreement_of_cells some, share, max_eq_left]
  rw [empty, Nat.max_eq_left (Nat.zero_le _), sub_nonpos, one_le_div (Nat.cast_pos.mpr cells)]
  exact Nat.cast_le.mpr (show cellCount a ≤ gridDifference a b by omega)

theorem agreement_comm (alike : ComparedAlike a.flatten b.flatten) :
    share (agreement a b) = share (agreement b a) := by
  by_cases some : HasCells a
  · by_cases some' : HasCells b
    · rw [agreement_of_cells some, agreement_of_cells some', gridDifference_comm alike, Nat.max_comm]
    · rw [agreement_with_empty some some', agreement_of_empty some']
  · by_cases some' : HasCells b
    · rw [agreement_of_empty some, agreement_with_empty some' some]
    · rw [agreement_of_empty some, agreement_of_empty some']

theorem agreement_eq_one_iff : share (agreement a b) = 1 ↔ HasCells a ∧ GridsAgree a b := by
  by_cases some : HasCells a
  · have cells := cellCount_pos.mpr some
    rw [agreement_of_cells some, share_eq_one_iff (lt_max_of_lt_left cells), gridDifference_eq_zero, and_iff_right some]
  · rw [agreement_of_empty some]
    simp [some]

theorem agreement_of_shape (shape : SameShape a b) (some : HasCells a) :
    share (agreement a b) = 1 - ((differing a b).length : ℚ) / a.flatten.length := by
  rw [agreement_of_cells some, ← cellCount_of_shape shape, Nat.max_self, gridDifference_of_shape shape,
    share_of_le (cellCount_pos.mpr some) (length_differing_le a b), cellCount_eq]

end Scores

/-- Sound cells are compared alike from both sides. -/
theorem comparedAlike_of_sound {xs ys : List Value} (sound : ∀ cell ∈ xs ++ ys, Sound cell) : ComparedAlike xs ys :=
  fun x member y member' =>
    same_comm x y (sound x (List.mem_append_left ys member)) (sound y (List.mem_append_right xs member'))

/-- The agreement of two grids of rows of any lengths, with values as cells, is a share between nothing and all. It is
one for both orders of the grids. It is full exactly if there are cells and all of them agree, where the grid with fewer
rows gets empty ones. For grids of one shape that have cells it lacks exactly the share of the cells that differ. -/
theorem agreement_faithful (a b : List (List Value)) :
    (0 ≤ share (agreement a b) ∧ share (agreement a b) ≤ 1) ∧
    ((∀ cell ∈ a.flatten ++ b.flatten, Sound cell) → share (agreement a b) = share (agreement b a)) ∧
    (share (agreement a b) = 1 ↔ HasCells a ∧ GridsAgree a b) ∧
    (SameShape a b → HasCells a →
      share (agreement a b) = 1 - ((differing a b).length : ℚ) / a.flatten.length) := by
  refine ⟨⟨share_nonneg _, share_le_one _⟩, fun sound => ?_, agreement_eq_one_iff, agreement_of_shape⟩
  exact agreement_comm (comparedAlike_of_sound sound)

/-- A grid with whole numbers, a truth value, no number and a mapping, and a row without cells. -/
def mixedCells : List (List Value) :=
  [[.int 1, .bool true], [], [.float .nan, .map [(.ofString "k", .int 0)]]]

/-- The same with truth values for whole numbers and the other way round. -/
def exchangedCells : List (List Value) :=
  [[.bool true, .int 1], [], [.float .nan, .map [(.ofString "k", .bool false)]]]

/-- Of four cells the one that is no number differs from itself. -/
theorem agreement_faithful_mixedCells :
    (∀ cell ∈ mixedCells.flatten ++ exchangedCells.flatten, Sound cell) ∧
    SameShape mixedCells exchangedCells ∧ HasCells mixedCells ∧
    share (agreement mixedCells exchangedCells) = share (agreement exchangedCells mixedCells) ∧
    share (agreement mixedCells exchangedCells) = 3 / 4 := by
  have sound : ∀ cell ∈ mixedCells.flatten ++ exchangedCells.flatten, Sound cell := by
    simp [mixedCells, exchangedCells, Sound, SoundEntries, Distinct, IsScalar, Value.ofString]
  have shape : SameShape mixedCells exchangedCells := rfl
  have some : HasCells mixedCells := ⟨_, List.mem_cons_self, List.cons_ne_nil _ _⟩
  obtain ⟨-, comm, -, exact⟩ := agreement_faithful mixedCells exchangedCells
  refine ⟨sound, shape, some, comm sound, (exact shape some).trans ?_⟩
  have one : (differing mixedCells exchangedCells).length = 1 := by
    simp [differing, mixedCells, exchangedCells, bne, beq_eq, ofString, same, sameNumber, sameEntries, Binary64.same]
  rw [one]
  norm_num [mixedCells]

end TapeSheet.Agreement
