import TapeSheet.Limited
import TapeSheet.Proofs.Enumeration

/-!
# Assignments in the order of binary counting

The assignments of a width are listed twice: one after the other by spelling codes, and as a matrix that is filled one
column after the other. Both count in binary (`assignments_count_in_binary`), so a list of the first few assignments is
the start of the list of all, and on a machine with room for the codes nothing changes.
-/

namespace TapeSheet.Counting
open TapeSheet.Enumeration

theorem assignments_eq (width : Nat) : assignments width = .ok (allAssignments width) := by
  unfold assignments fillable
  rw [if_neg (by omega), Int.toNat_natCast]
  rfl

theorem allAssignments_length (width : Nat) : (allAssignments width).length = 2 ^ width := by
  simp [allAssignments]

theorem firstAssignments_eq (count width : Nat) :
    firstAssignments count width = .ok ((allAssignments width).take count) := by
  unfold firstAssignments fillable
  rw [if_neg (by omega), Int.toNat_natCast, allAssignments, ← List.map_take, List.take_range]
  rfl

/-- Rows that are the numbers of a width in binary, from zero on: the row at a place spells that place from left to
right, so every row of the width is there once, and they ascend from left to right with a dead cell below a living
one. -/
structure CountsInBinary (width : Nat) (rows : List Assignment) : Prop where
  length : rows.length = 2 ^ width
  spells : ∀ k (inside : k < rows.length), rows[k].length = width ∧ Rule.binaryValue rows[k] = k
  once : ∀ cells : Assignment, cells.length = width → rows.count cells = 1
  ascending : rows.Pairwise (· < ·)

theorem allAssignments_counts (width : Nat) : CountsInBinary width (allAssignments width) where
  length := allAssignments_length width
  spells := by
    intro k inside
    have at_k : (allAssignments width)[k] = spelled width k := by simp [allAssignments]
    rw [allAssignments_length] at inside
    rw [at_k]
    exact ⟨spelled_length width k, binaryValue_spelled width k inside⟩
  once := by
    intro cells size
    exact List.count_eq_one_of_mem (allAssignments_nodup width) ((mem_allAssignments width cells).mpr size)
  ascending := allAssignments_sorted width

/-! ## Room -/

theorem checkWidth_ok {width : Nat} (few : width < Limited.widthLimit) : Limited.checkWidth width = .ok () := by
  have isLimit : Limited.widthLimit = 1099511627776 := rfl
  have words : Limited.wordCount width ≤ width + 2 := by
    have extra : (if width % Limited.wordBits = 0 then 1 else 2) ≤ 2 := by split <;> omega
    simp only [Limited.wordCount, Limited.wordBits] at extra ⊢
    omega
  have most : 1099511627776 + 2 ≤ Limited.wordLimit := by decide
  unfold Limited.checkWidth
  rw [Int.toNat_natCast, if_neg (by omega), if_neg (by omega)]

theorem checkCodes_ok {width : Nat} (few : width < Limited.matrixLimit) : Limited.checkCodes width = .ok () := by
  have isLimit : Limited.matrixLimit = 33 := rfl
  have codes : 33 ≤ Limited.codesLimit := by decide
  have widths : 33 ≤ Limited.widthLimit := by decide
  have counted : Limited.checkWidth width = .ok () := checkWidth_ok (by omega)
  unfold Limited.checkCodes
  rw [counted]
  simp only [Int.toNat_natCast, bind, Except.bind]
  rw [if_neg (by omega), if_neg (by omega), if_neg (by omega), if_neg (by omega)]
  rfl

theorem limited_firstAssignments {width : Nat} (few : width < Limited.widthLimit) (count : Nat) :
    Limited.firstAssignments count width = .ok ((allAssignments width).take count) := by
  unfold Limited.firstAssignments
  by_cases none : count = 0
  · rw [if_pos none, none, List.take_zero]
    rfl
  · rw [if_neg none, checkWidth_ok few]
    exact firstAssignments_eq count width

theorem limited_codeMatrix {width : Nat} (few : width < Limited.matrixLimit) :
    Limited.codeMatrix width = .ok (allAssignments width) := by
  unfold Limited.codeMatrix
  rw [checkCodes_ok few]
  exact codeMatrix_eq width

/-- Where there is room for all assignments, their codes fit into words of four bytes. -/
theorem codes_fit {width : Nat} (few : width < Limited.matrixLimit) : (allAssignments width).length ≤ 2 ^ 32 := by
  have isLimit : Limited.matrixLimit = 33 := rfl
  rw [allAssignments_length]
  exact Nat.pow_le_pow_right (by decide) (by omega)

/-- The assignments of a width count in binary, and so do the rows of the matrix of codes, which are the same. The first
few of them are listed without the others, and a machine lists the same as long as it has room, which it has for none
whose codes would not fit into four bytes. -/
theorem assignments_count_in_binary (width : Nat) :
    ∃ rows, assignments width = .ok rows ∧ CountsInBinary width rows ∧ codeMatrix width = .ok rows ∧
      (∀ count, firstAssignments count width = .ok (rows.take count)) ∧
      (width < Limited.widthLimit → ∀ count, Limited.firstAssignments count width = .ok (rows.take count)) ∧
      (width < Limited.matrixLimit → rows.length ≤ 2 ^ 32 ∧ Limited.codeMatrix width = .ok rows) :=
  ⟨allAssignments width, assignments_eq width, allAssignments_counts width, codeMatrix_eq width,
    fun count => firstAssignments_eq count width, limited_firstAssignments,
    fun few => ⟨codes_fit few, limited_codeMatrix few⟩⟩

/-- Four of the eight assignments of three cells start with a living one, and the first of these spells four. -/
theorem assignments_count_in_binary_three :
    3 < Limited.widthLimit ∧ 3 < Limited.matrixLimit ∧
    ∃ rows, CountsInBinary 3 rows ∧ Limited.codeMatrix (3 : Nat) = .ok rows ∧
      Limited.firstAssignments 5 (3 : Nat) = .ok (rows.take 5) ∧ rows.length = 8 ∧
      rows.count [true, false, false] = 1 ∧ Rule.binaryValue [true, false, false] = 4 := by
  obtain ⟨rows, _, counts, _, _, listed, filled⟩ := assignments_count_in_binary 3
  exact ⟨by decide, by decide, rows, counts, (filled (by decide)).2, listed (by decide) 5, counts.length,
    counts.once _ rfl, rfl⟩

end TapeSheet.Counting
