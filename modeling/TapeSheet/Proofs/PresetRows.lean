import TapeSheet.Limited
import TapeSheet.Proofs.Accuracies
import Mathlib.Logic.Function.Iterate

/-!
# Rows of presets

Every preset fills a row of any length. A pattern stands before the last two cells of the row; where the row is too short
for that it begins with the pattern, as much of it as fits (`placed_eq`). The random bits of a seed are one sequence, from
which every row takes its first ones (`noise_row`).
-/

namespace TapeSheet.PresetRows
open TapeSheet.Accuracies TapeSheet.RandomBits

/-! ## Patterns -/

/-- A row of `cols` cells with a pattern before its last two cells, or at its beginning if it is shorter than that. -/
def laidOut (cols : Nat) (cells : List Bool) : List Bool :=
  if cells.length + 2 ≤ cols then List.replicate (cols - cells.length - 2) false ++ cells ++ [false, false]
  else if cells.length ≤ cols then cells ++ List.replicate (cols - cells.length) false
  else cells.take cols

/-- A placed pattern has dead cells on both sides, as far as the row goes. -/
theorem placed_take (cols first : Nat) (cells : List Nat) :
    placed cols first cells =
      (List.replicate first false ++ cells.map (· != 0) ++ List.replicate cols false).take cols := by
  apply List.ext_getElem
  · simp only [placed, rowWhere, List.length_map, List.length_range, List.length_take, List.length_append,
      List.length_replicate]
    omega
  · intro i inside _
    have within : i < cols := by simpa [placed, rowWhere] using inside
    simp only [placed, rowWhere, List.getElem_map, List.getElem_range, List.getElem_take, List.append_assoc,
      List.getElem_append, List.length_replicate, List.length_map, List.getElem_replicate]
    by_cases before : i < first
    · simp [before]
    · by_cases own : i - first < cells.length
      · simp [before, own, Nat.le_of_not_lt before]
      · simp [before, own]

theorem take_dead {cells : List Bool} {cols : Nat} (fits : cells.length ≤ cols) :
    (cells ++ List.replicate cols false).take cols = cells ++ List.replicate (cols - cells.length) false := by
  rw [List.take_append, List.take_of_length_le fits, List.take_replicate, Nat.min_eq_left (Nat.sub_le _ _)]

theorem placed_eq (cols : Nat) (cells : List Nat) :
    placed cols (cols - (cells.length + 2)) cells = laidOut cols (cells.map (· != 0)) := by
  rw [placed_take, laidOut, List.length_map]
  split
  · rename_i room
    -- Dead cells in front and the pattern leave two cells of the row.
    have size : (List.replicate (cols - (cells.length + 2)) false ++ cells.map (· != 0)).length = cols - 2 := by
      simp only [List.length_append, List.length_replicate, List.length_map]
      omega
    rw [take_dead (by omega), size, Nat.sub_sub_self (by omega), ← Nat.sub_sub]
    rfl
  · rename_i narrow
    rw [Nat.sub_eq_zero_of_le (by omega), List.replicate_zero, List.nil_append]
    split
    · rename_i fits
      rw [take_dead (by simpa using fits), List.length_map]
    · rename_i short
      exact List.take_append_of_le_length (by rw [List.length_map]; omega)

/-! ## Random bits -/

/-- The bits of a seed. -/
def draw (seed i : Nat) : Bool := (Stream.advance^[i + 1] (Stream.ofSeed seed)).bit

theorem rowWhere_succ (n : Nat) (alive : Nat → Bool) :
    rowWhere (n + 1) alive = alive 0 :: rowWhere n fun i => alive (i + 1) := by
  rw [rowWhere, List.range_succ_eq_map, List.map_cons, List.map_map]
  rfl

/-- Readings of a state before each of its steps but the first. -/
theorem rowWhere_iterate {σ : Type} (step : σ → σ) (read : σ → Bool) (n : Nat) (s : σ) :
    rowWhere (n + 1) (fun i => read (step^[i + 1] s)) =
      read (step s) :: rowWhere n fun i => read (step^[i + 1] (step s)) := rowWhere_succ n _

theorem take_eq (n : Nat) (s : Stream) : s.take n = rowWhere n fun i => (Stream.advance^[i + 1] s).bit := by
  induction n generalizing s with
  | zero => rfl
  | succ n ih => rw [Stream.take, ih, rowWhere_iterate Stream.advance]

theorem noise_row (cols seed : Nat) : Generator.noise.row cols seed = rowWhere cols (draw seed) := by
  rw [Generator.row, take_eq]
  rfl

theorem rowWhere_take {n cols : Nat} (fewer : n ≤ cols) (alive : Nat → Bool) :
    (rowWhere cols alive).take n = rowWhere n alive := by
  rw [rowWhere, ← List.map_take, List.take_range, Nat.min_eq_left fewer, rowWhere]

theorem rowWhere_alive {cols i : Nat} {alive : Nat → Bool} :
    (rowWhere cols alive)[i]? = some true ↔ i < cols ∧ alive i = true := by
  by_cases inside : i < cols
  · simp [rowWhere, inside]
  · simp [rowWhere, inside]

/-! ## Keys -/

/-- The source of the preset with a key. -/
def sourceOf (key : String) : Option PresetSource := (Preset.catalogue.find? fun preset => preset.key = key).map (·.source)

/-- The cells of a source. -/
def cellsFrom (cols seed : Nat) : PresetSource → List Bool
  | .generated generator => generator.row cols seed
  | .pattern cells => placed cols (cols - (cells.length + 2)) cells

theorem same_ofString (s t : String) : (Value.ofString s == .ofString t) = decide (t = s) := by
  rw [Bool.eq_iff_iff, decide_eq_true_iff]
  change Value.same (.text _) (.text _) = true ↔ _
  rw [Value.same, beq_iff_eq]
  constructor
  · intro same
    have chars := List.map_injective_iff.mpr (fun _ _ => Letter.char.inj) (congrArg Text.letters same)
    exact (String.toList_inj.mp chars).symm
  · rintro rfl
    rfl

/-- A known preset makes the row of its source, whatever the length and the seed. -/
theorem presetRow_of_source {key : String} {source : PresetSource} (known : sourceOf key = some source) {cols : Nat}
    (wide : 1 ≤ cols) (seed : Nat) : presetRow (.ofString key) cols seed = .ok (cellsFrom cols seed source) := by
  obtain ⟨preset, found, rfl⟩ := Option.map_eq_some_iff.mp known
  have own : (Preset.catalogue.find? fun preset => Value.ofString key == .ofString preset.key) = some preset := by
    rw [← found]
    congr 1
    funext other
    exact same_ofString key other.key
  unfold presetRow
  simp only [Value.ofString] at own ⊢
  rw [own]
  simp only
  rw [if_neg (by omega), Int.toNat_natCast]
  cases preset.source with
  | generated generator => rw [PresetSource.row, if_neg (by omega), Int.toNat_natCast, cellsFrom]
  | pattern cells => rfl

theorem sourceOf_known {key : String} (known : key ∈ Preset.keys) : ∃ source, sourceOf key = some source := by
  obtain ⟨preset, listed, rfl⟩ := List.mem_map.mp known
  cases found : Preset.catalogue.find? fun other => other.key = preset.key with
  | none => exact absurd (List.find?_eq_none.mp found preset listed) (by simp)
  | some own => exact ⟨own.source, by rw [sourceOf, found]; rfl⟩

theorem limited_presetRow {cols : Int} (room : Limited.checkRoom cols = .ok ()) (key : Value) (seed : Int) :
    Limited.presetRow key cols seed = presetRow key cols seed := by
  rw [Limited.presetRow, room]

/-- The row of every preset, for every length and every seed that is not negative. Patterns are laid out near the right
edge. One cell is at the end, an alternating row begins with a living cell, and a dense one is alive up to five cells
from its middle. A random row for fewer cells is the beginning of one for more. -/
theorem preset_fits {key : String} (known : key ∈ Preset.keys) {cols : Nat} (wide : 1 ≤ cols) (seed : Nat) :
    ∃ root, presetRow (.ofString key) cols seed = .ok root ∧ root.length = cols ∧
      (Limited.checkRoom cols = .ok () → Limited.presetRow (.ofString key) cols seed = .ok root) ∧
      (∀ cells, sourceOf key = some (.pattern cells) → root = laidOut cols (cells.map (· != 0))) ∧
      (key = "single" → ∀ i : Nat, root[i]? = some true ↔ i = cols - 1) ∧
      (key = "alternating" → ∀ i : Nat, root[i]? = some true ↔ i < cols ∧ i % 2 = 0) ∧
      (key = "dense" → ∀ i : Nat, root[i]? = some true ↔ i < cols ∧ |(i : Int) - (cols / 2 : Nat)| ≤ 5) ∧
      (key = "random" → ∀ n : Nat, 1 ≤ n → n ≤ cols → presetRow (.ofString key) n seed = .ok (root.take n)) := by
  obtain ⟨source, own⟩ := sourceOf_known known
  have row := presetRow_of_source own wide seed
  refine ⟨cellsFrom cols seed source, row, Int.ofNat_inj.mp (presetRow_length row), fun room => ?_, ?_, ?_, ?_, ?_, ?_⟩
  · rw [limited_presetRow room, row]
  · intro cells pattern
    obtain rfl := Option.some.inj (own.symm.trans pattern)
    exact placed_eq cols cells
  · rintro rfl i
    obtain rfl : source = .generated .single := Option.some.inj (own.symm.trans rfl)
    rw [cellsFrom, Generator.row, rowWhere_alive, decide_eq_true_iff]
    omega
  · rintro rfl i
    obtain rfl : source = .generated .alternating := Option.some.inj (own.symm.trans rfl)
    rw [cellsFrom, Generator.row, rowWhere_alive, decide_eq_true_iff]
  · rintro rfl i
    obtain rfl : source = .generated .dense := Option.some.inj (own.symm.trans rfl)
    rw [cellsFrom, Generator.row, rowWhere_alive, Bool.and_eq_true, decide_eq_true_iff, decide_eq_true_iff, abs_le]
    omega
  · rintro rfl n some fewer
    obtain rfl : source = .generated .noise := Option.some.inj (own.symm.trans rfl)
    rw [presetRow_of_source own some seed, cellsFrom, cellsFrom, noise_row, noise_row, rowWhere_take fewer]

/-- Eleven cells hold the ten cells of a pattern, but not two more. -/
theorem preset_fits_repeater :
    "repeater" ∈ Preset.keys ∧ 1 ≤ 11 ∧ Limited.checkRoom (11 : Nat) = .ok () ∧
    Limited.presetRow (.ofString "repeater") (11 : Nat) (7 : Nat) =
      .ok [true, true, true, false, true, false, false, true, true, false, false] := by
  have known : "repeater" ∈ Preset.keys := by decide
  have room : Limited.checkRoom (11 : Nat) = .ok () := rfl
  obtain ⟨root, -, -, limited, laid, -⟩ := preset_fits known (by decide : 1 ≤ 11) 7
  refine ⟨known, by decide, room, ?_⟩
  rw [limited room, laid _ rfl]
  rfl

end TapeSheet.PresetRows
