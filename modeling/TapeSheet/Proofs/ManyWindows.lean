import TapeSheet.Proofs.Composition
import TapeSheet.Proofs.Enumeration
import TapeSheet.Proofs.Unfolding

/-!
# Many windows at once

A step on a row of bytes packs three slices of the row, each shifted by one place, into codes and looks all of them up
in the table (`reduceBytes_packed`). The bytes of a stage are the cells of the stage (`byteStage_eq`), so no digit is
shifted out of a byte and no code lies beyond the table (`looksInside`): all rows of a matrix give what each of them
gives on its own, and a matrix of the wrong width is refused as its rows are.
-/

namespace TapeSheet.ManyWindows
open TapeSheet.LightCone TapeSheet.Composition TapeSheet.Enumeration TapeSheet.Unfolding

/-! ## Codes from slices -/

/-- The codes of all neighbourhoods of a row of bytes, packed from three slices of the row: without the last two places,
without the first and the last one, and without the first two. -/
def packedCodes (row : List UInt8) : List UInt8 :=
  List.zipWith (· ||| ·)
    (List.zipWith (· ||| ·) (row.dropLast.dropLast.map fun left => left <<< (2 : UInt8))
      (row.tail.dropLast.map fun center => center <<< (1 : UInt8)))
    row.tail.tail

theorem packedCodes_cons (left center right : UInt8) (rest : List UInt8) :
    packedCodes (left :: center :: right :: rest) =
      byteCode left center right :: packedCodes (center :: right :: rest) := by
  simp [packedCodes, byteCode]

/-- A step looks the packed codes up in the table. -/
theorem reduceBytes_packed (table row : List UInt8) :
    Rule.reduceBytes table row = (packedCodes row).map fun code => table.getD code.toNat 0 := by
  induction row with
  | nil => rfl
  | cons left rest ih =>
    match rest, ih with
    | [], _ => rfl
    | [_], _ => rfl
    | center :: right :: more, ih => rw [Rule.reduceBytes, ih, packedCodes_cons, List.map_cons]

theorem mem_packedCodes {row : List UInt8} {code : UInt8} (member : code ∈ packedCodes row) :
    ∃ left ∈ row, ∃ center ∈ row, ∃ right ∈ row, code = byteCode left center right := by
  induction row with
  | nil => cases member
  | cons left rest ih =>
    match rest, ih, member with
    | [], _, member => cases member
    | [_], _, member => cases member
    | center :: right :: more, ih, member =>
      rw [packedCodes_cons] at member
      rcases List.mem_cons.mp member with rfl | later
      · exact ⟨left, by simp, center, by simp, right, by simp, rfl⟩
      · obtain ⟨l, inL, c, inC, r, inR, same⟩ := ih later
        exact ⟨l, List.mem_cons_of_mem _ inL, c, List.mem_cons_of_mem _ inC, r, List.mem_cons_of_mem _ inR, same⟩

/-! ## Safe steps -/

/-- A step on a row of bytes shifts no digit out of a byte and looks at no place beyond the table of the rule. -/
structure LooksInside (ρ : Rule) (row : List UInt8) : Prop where
  doubled : ∀ byte ∈ row, (byte <<< 1).toNat = 2 * byte.toNat
  quadrupled : ∀ byte ∈ row, (byte <<< 2).toNat = 4 * byte.toNat
  coded : ∀ code ∈ packedCodes row, code.toNat ≤ 7 ∧ code.toNat < ρ.table.length

theorem table_length (ρ : Rule) : ρ.table.length = 8 := by
  simp [Rule.table]

theorem looksInside (ρ : Rule) (cells : List Bool) : LooksInside ρ (cells.map cellByte) where
  doubled := by
    rw [List.forall_mem_map]
    intro alive _
    cases alive <;> rfl
  quadrupled := by
    rw [List.forall_mem_map]
    intro alive _
    cases alive <;> rfl
  coded := by
    intro code member
    -- All three bytes are cells, so the code is the place of a neighbourhood.
    obtain ⟨left, inLeft, center, inCenter, right, inRight, rfl⟩ := mem_packedCodes member
    obtain ⟨l, _, rfl⟩ := List.mem_map.mp inLeft
    obtain ⟨c, _, rfl⟩ := List.mem_map.mp inCenter
    obtain ⟨r, _, rfl⟩ := List.mem_map.mp inRight
    have small := hoodCode_lt l c r
    rw [byteCode_eq, table_length]
    omega

/-! ## Blocks of rows -/

theorem ofRows_rows {α : Type} (rows : List (List α)) : (Block.ofRows rows).rows = rows := by
  have cells : ∀ row : List α, (Block.list (row.map Block.item)).row = row := by
    intro row
    have kept : (Block.item? ∘ Block.item : α → Option α) = some := rfl
    rw [Block.row, List.filterMap_map, kept, List.filterMap_some]
  simp [Block.ofRows, Block.rows, Function.comp_def, cells]

theorem ofRows_dimensions {α : Type} {rows : List (List α)} (some : rows ≠ []) : (Block.ofRows rows).dimensions = 2 := by
  obtain ⟨row, rest, rfl⟩ := List.exists_cons_of_ne_nil some
  cases row <;> rfl

/-! ## Rows of cells -/

section Rows
variable {α : Type} [Cell α] (ρ : Rule)

/-- The bytes that are left of a row after a number of steps. -/
def byteStage (row : List α) (steps : Nat) : List UInt8 :=
  Rule.reduceBytesTimes (ρ.table.map cellByte) steps (row.map fun a => cellByte (Cell.alive a))

theorem byteStage_eq (row : List α) (steps : Nat) : byteStage ρ row steps = (stage ρ row steps).map cellByte := by
  rw [byteStage, stage, ← reduceBytesTimes_eq, List.map_map]
  rfl

theorem byteStage_succ (row : List α) (steps : Nat) :
    byteStage ρ row (steps + 1) =
      (packedCodes (byteStage ρ row steps)).map fun code => (ρ.table.map cellByte).getD code.toNat 0 := by
  rw [byteStage_eq, byteStage_eq, stage_succ, ← reduceBytes_eq, reduceBytes_packed]

theorem cellsBelowBlock_ofRows {rows : List (List α)} (some : rows ≠ []) (depth : Int) :
    ρ.cellsBelowBlock (.ofRows rows) depth = ρ.cellsBelow rows depth := by
  rw [Rule.cellsBelowBlock, ofRows_dimensions some, ofRows_rows]
  rfl

theorem cellsBelow_of_misfit {rows : List (List α)} {width : Nat} {depth : Int} (some : rows ≠ [])
    (sizes : ∀ row ∈ rows, row.length = width) (misfit : ¬ Fits width depth) :
    ρ.cellsBelow rows depth = .error (.shape (.window width depth)) := by
  have first : (rows.headD []).length = width := by
    obtain ⟨row, rest, rfl⟩ := List.exists_cons_of_ne_nil some
    exact sizes row (by simp)
  unfold Rule.cellsBelow
  rw [first, checkLength_of_misfit misfit]

/-- A matrix whose rows are windows of the right length gives the cells that its rows give one by one, and on the way no
row shifts a digit out of a byte or looks beyond the table. A matrix of any other width is refused with the fault of
each row, which is reported unless the width that it asks for has too many digits. -/
theorem rows_reduced_together {rows : List (List α)} {width : Nat} (depth : Int) (some : rows ≠ [])
    (sizes : ∀ row ∈ rows, row.length = width) :
    (Fits width depth →
      (∃ cells, ρ.cellsBelowBlock (.ofRows rows) depth = .ok cells ∧
        List.Forall₂ (fun row alive => ρ.cellBelow row depth = .ok alive) rows cells) ∧
      ∀ row ∈ rows, ∀ n : Nat, n < depth → LooksInside ρ (byteStage ρ row n) ∧
        byteStage ρ row (n + 1) =
          (packedCodes (byteStage ρ row n)).map fun code => (ρ.table.map cellByte).getD code.toNat 0) ∧
    (¬ Fits width depth →
      ∃ fault, fault = .shape (.window width depth) ∧ ρ.cellsBelowBlock (.ofRows rows) depth = .error fault ∧
        (∀ row ∈ rows, ρ.cellBelow row depth = .error fault) ∧
        fault.reported = if Decimal.isWritable (2 * depth + 1) then fault else .range .unwritableNumber) := by
  rw [cellsBelowBlock_ofRows ρ some]
  constructor
  · intro fits
    obtain ⟨d, rfl, rfl⟩ := exists_of_fits fits
    refine ⟨⟨_, cellsBelow_eq ρ rows d some sizes, ?_⟩, fun row _ n _ => ⟨?_, byteStage_succ ρ row n⟩⟩
    · rw [List.forall₂_map_right_iff, List.forall₂_same]
      exact fun row member => cellBelow_onTape ρ (sizes row member) (within_ofRow row)
    · rw [byteStage_eq]
      exact looksInside ρ _
  · intro misfit
    refine ⟨_, rfl, cellsBelow_of_misfit ρ some sizes misfit, fun row member => ?_, reported_window width depth⟩
    rw [← sizes row member] at misfit ⊢
    exact cellBelow_of_misfit ρ row misfit

end Rows

/-- Two rows of truth values under a rule that tells left from right, whose second stage of codes is safe as well, and a
matrix of empty rows. -/
theorem rows_reduced_together_lopsided :
    (Fits 5 2 ∧ ∃ cells, (Rule.mk 30).cellsBelowBlock
        (.ofRows [[true, false, false, true, true], [false, true, true, true, false]]) 2 = .ok cells ∧
      List.Forall₂ (fun row alive => (Rule.mk 30).cellBelow row 2 = .ok alive)
        [[true, false, false, true, true], [false, true, true, true, false]] cells ∧
      LooksInside (Rule.mk 30) (byteStage (Rule.mk 30) [true, false, false, true, true] 1) ∧
      byteStage (Rule.mk 30) [true, false, false, true, true] 1 = [1, 1, 1]) ∧
    ¬ Fits 0 0 ∧ ∃ fault, rule110.cellsBelowBlock (.ofRows [([] : List Bool), []]) 0 = .error fault ∧
      rule110.cellBelow ([] : List Bool) 0 = .error fault ∧ fault.reported = fault := by
  constructor
  · have fits : Fits 5 2 := ⟨by decide, by decide⟩
    have sizes : ∀ row ∈ [[true, false, false, true, true], [false, true, true, true, false]], row.length = 5 := by
      decide
    obtain ⟨⟨cells, run, alike⟩, safe⟩ := (rows_reduced_together (Rule.mk 30) 2 (by decide) sizes).1 fits
    exact ⟨fits, cells, run, alike, (safe _ (by decide) 1 (by decide)).1, by decide⟩
  · have misfit : ¬ Fits 0 0 := fun fits => absurd fits.2 (by decide)
    have sizes : ∀ row ∈ [([] : List Bool), []], row.length = 0 := by decide
    obtain ⟨fault, _, refused, alike, reported⟩ := (rows_reduced_together rule110 0 (by decide) sizes).2 misfit
    have few : Decimal.isWritable (2 * 0 + 1) = true := by decide +kernel
    rw [few, if_pos rfl] at reported
    exact ⟨misfit, fault, refused, alike [] (by decide), reported⟩

theorem isWritable_of_last : Decimal.isWritable (2 * (Decimal.unwritable - 1 : Nat) + 1) = false := by
  have many : 1 ≤ Decimal.unwritable := by decide +kernel
  unfold Decimal.isWritable
  exact decide_eq_false (by omega)

/-- A matrix of one row is asked for a width with too many digits: that number is the fault that is reported, for the
matrix and for its row. -/
theorem unwritable_width_reported :
    ∃ fault, rule110.cellsBelowBlock (.ofRows [[false, true, false]]) (Decimal.unwritable - 1 : Nat) = .error fault ∧
      rule110.cellBelow [false, true, false] (Decimal.unwritable - 1 : Nat) = .error fault ∧
      fault.reported = .range .unwritableNumber := by
  have many : 3 ≤ Decimal.unwritable := by decide +kernel
  have misfit : ¬ Fits 3 (Decimal.unwritable - 1 : Nat) := by
    rintro ⟨_, size⟩
    omega
  refine ⟨_, ?_, cellBelow_of_misfit rule110 [false, true, false] misfit, ?_⟩
  · rw [cellsBelowBlock_ofRows rule110 (by decide)]
    exact cellsBelow_of_misfit rule110 (by decide) (by decide) misfit
  · rw [reported_window, isWritable_of_last]
    rfl

end TapeSheet.ManyWindows
