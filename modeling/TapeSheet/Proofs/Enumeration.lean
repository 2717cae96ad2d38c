import TapeSheet.Proofs.LightCone
import TapeSheet.Window
import Mathlib.Algebra.Group.Nat.Defs
import Mathlib.Data.List.Nodup

/-!
# The assignments of a window

Assignments in the order of their codes are all rows of cells of one length, each once (`mem_allAssignments`,
`allAssignments_nodup`), the matrix that is built column by column lists them in the same order, and reducing all
rows of a matrix with bytes and a table is reducing each row on its own. So the living assignments of a row are
those whose tape is alive below their middle.
-/

namespace TapeSheet.Enumeration
open TapeSheet.LightCone

/-! ## Binary counting -/

theorem spelled_length (width code : Nat) : (spelled width code).length = width := by
  simp [spelled]

/-- The last cell of an assignment is the lowest digit of its code. -/
theorem spelled_succ (width code : Nat) :
    spelled (width + 1) code = spelled width (code / 2) ++ [code % 2 == 1] := by
  unfold spelled
  rw [List.range_succ, List.map_append]
  congr 1
  · apply List.map_congr_left
    intro place member
    have inside := List.mem_range.mp member
    have shift : width + 1 - 1 - place = 1 + (width - 1 - place) := by omega
    have half : code >>> 1 = code / 2 := rfl
    rw [shift, Nat.shiftRight_add, half]
  · simp

theorem binaryValue_append (digits : List Bool) (last : Bool) :
    Rule.binaryValue (digits ++ [last]) = 2 * Rule.binaryValue digits + last.toNat := by
  simp [Rule.binaryValue]

theorem binaryValue_spelled (width code : Nat) (fits : code < 2 ^ width) :
    Rule.binaryValue (spelled width code) = code := by
  induction width generalizing code with
  | zero =>
    have : code = 0 := by simpa using fits
    subst this
    rfl
  | succ width ih =>
    rw [Nat.pow_succ] at fits
    rw [spelled_succ, binaryValue_append, ih (code / 2) (by omega)]
    rcases Nat.mod_two_eq_zero_or_one code with even | odd
    · simp only [even, Nat.reduceBEq, Bool.toNat_false]; omega
    · simp only [odd, BEq.rfl, Bool.toNat_true]; omega

/-- An assignment is told by its code, which needs no more digits than there are cells. -/
theorem spelled_binaryValue (width : Nat) (cells : Assignment) (size : cells.length = width) :
    Rule.binaryValue cells < 2 ^ width ∧ spelled width (Rule.binaryValue cells) = cells := by
  induction width generalizing cells with
  | zero =>
    have empty := List.length_eq_zero_iff.mp size
    subst empty
    exact ⟨by decide, rfl⟩
  | succ width ih =>
    have notEmpty : cells ≠ [] := List.ne_nil_of_length_eq_add_one size
    obtain ⟨front, last, rfl⟩ : ∃ front last, cells = front ++ [last] :=
      ⟨_, _, (List.dropLast_concat_getLast notEmpty).symm⟩
    obtain ⟨bound, same⟩ := ih front (by simpa using size)
    have digit : last.toNat < 2 := Bool.toNat_lt last
    have half : (2 * Rule.binaryValue front + last.toNat) / 2 = Rule.binaryValue front := by omega
    refine ⟨?_, ?_⟩
    · rw [binaryValue_append, Nat.pow_succ]; omega
    · rw [binaryValue_append, spelled_succ, half, same]
      cases last <;> simp [Nat.add_mod]

/-- All assignments of a width, in the order of their codes. -/
def allAssignments (width : Nat) : List Assignment := (List.range (2 ^ width)).map (spelled width)

theorem mem_allAssignments (width : Nat) (cells : Assignment) :
    cells ∈ allAssignments width ↔ cells.length = width := by
  constructor
  · intro member
    obtain ⟨code, _, rfl⟩ := List.mem_map.mp member
    exact spelled_length width code
  · intro size
    obtain ⟨bound, same⟩ := spelled_binaryValue width cells size
    exact List.mem_map.mpr ⟨_, List.mem_range.mpr bound, same⟩

theorem allAssignments_nodup (width : Nat) : (allAssignments width).Nodup := by
  apply List.Nodup.map_on _ List.nodup_range
  intro code member other otherMember same
  have values := congrArg Rule.binaryValue same
  rwa [binaryValue_spelled width code (List.mem_range.mp member),
    binaryValue_spelled width other (List.mem_range.mp otherMember)] at values

/-- Of two rows of one length the smaller one stays smaller, whatever follows them. -/
theorem append_lt_append {cells others : Assignment} (size : cells.length = others.length) (less : cells < others)
    (s t : List Bool) : cells ++ s < others ++ t := by
  induction cells generalizing others with
  | nil =>
    obtain rfl := List.length_eq_zero_iff.mp size.symm
    exact absurd less (List.not_lt_nil [])
  | cons c cells ih =>
    cases others with
    | nil => cases size
    | cons d others =>
      rw [List.cons_append, List.cons_append, List.cons_lt_cons_iff]
      rcases List.cons_lt_cons_iff.mp less with first | ⟨same, rest⟩
      · exact .inl first
      · exact .inr ⟨same, ih (Nat.succ.inj size) rest⟩

/-- Smaller codes spell smaller assignments, in the lexicographic order with a dead cell below a living one. -/
theorem spelled_lt {width code other : Nat} (less : code < other) (fits : other < 2 ^ width) :
    spelled width code < spelled width other := by
  induction width generalizing code other with
  | zero => omega
  | succ width ih =>
    rw [Nat.pow_succ] at fits
    rw [spelled_succ, spelled_succ]
    rcases Nat.lt_or_ge (code / 2) (other / 2) with front | front
    · exact append_lt_append (by rw [spelled_length, spelled_length]) (ih front (by omega)) _ _
    · have half : code / 2 = other / 2 := by omega
      have even : code % 2 = 0 := by omega
      have odd : other % 2 = 1 := by omega
      rw [half, even, odd]
      exact List.append_left_lt (by decide)

theorem allAssignments_sorted (width : Nat) : (allAssignments width).Pairwise (· < ·) := by
  rw [allAssignments, List.pairwise_map]
  apply List.pairwise_lt_range.imp_of_mem
  intro code other _ member less
  exact spelled_lt less (List.mem_range.mp member)

/-! ## The matrix of codes -/

/-- Putting columns in front of each other lists the digits of every code. -/
theorem columns_eq (width : Nat) (places : List Nat) :
    places.foldr (fun place rows => List.zipWith List.cons (codeColumn width place) rows)
        (List.replicate (2 ^ width) []) =
      (List.range (2 ^ width)).map fun code => places.map fun place => (code >>> (width - 1 - place)) % 2 == 1 := by
  induction places with
  | nil => simp
  | cons place rest ih =>
    rw [List.foldr_cons, ih, codeColumn, Nat.pow_eq, List.zipWith_map, List.zipWith_self]
    apply List.map_congr_left
    intro code _
    rw [List.map_cons, Nat.and_one_is_mod]
    congr 1
    rcases Nat.mod_two_eq_zero_or_one (code >>> (width - 1 - place)) with even | odd
    · rw [even]; rfl
    · rw [odd]; rfl

theorem codeMatrix_eq (width : Nat) : codeMatrix width = .ok (allAssignments width) := by
  have fillableWidth : fillable width = .ok width := by
    unfold fillable
    rw [if_neg (by omega), Int.toNat_natCast]
  unfold codeMatrix
  rw [fillableWidth]
  exact congrArg Except.ok (columns_eq width (List.range width))

/-! ## Many windows at once -/

theorem byteCode_eq (left center right : Bool) :
    (byteCode (cellByte left) (cellByte center) (cellByte right)).toNat = hoodCode left center right := by
  cases left <;> cases center <;> cases right <;> decide

theorem hoodCode_lt (left center right : Bool) : hoodCode left center right < 8 := by
  cases left <;> cases center <;> cases right <;> decide

/-- The table of bytes has the outcome of a neighbourhood at its code. -/
theorem table_at (ρ : Rule) (left center right : Bool) :
    (ρ.table.map cellByte).getD (byteCode (cellByte left) (cellByte center) (cellByte right)).toNat 0 =
      cellByte (ρ.outcome left center right) := by
  have inside := hoodCode_lt left center right
  rw [byteCode_eq]
  simp [Rule.table, Rule.outcome, inside]

theorem reduceBytes_eq (ρ : Rule) (cells : List Bool) :
    Rule.reduceBytes (ρ.table.map cellByte) (cells.map cellByte) = (ρ.reduce cells).map cellByte := by
  induction cells with
  | nil => rfl
  | cons left rest ih =>
    match rest, ih with
    | [], _ => rfl
    | [_], _ => rfl
    | center :: right :: more, ih =>
      simp only [List.map_cons, Rule.reduceBytes, Rule.reduce] at ih ⊢
      rw [table_at, ih]

theorem reduceBytesTimes_eq (ρ : Rule) (n : Nat) (cells : List Bool) :
    Rule.reduceBytesTimes (ρ.table.map cellByte) n (cells.map cellByte) = (ρ.reduceTimes n cells).map cellByte := by
  induction n generalizing cells with
  | zero => rfl
  | succ n ih => rw [Rule.reduceBytesTimes, reduceBytes_eq, ih, Rule.reduceTimes]

theorem cellByte_ne_zero (alive : Bool) : (cellByte alive != 0) = alive := by
  cases alive <;> rfl

/-- All rows of a matrix give what each of them gives on its own tape. -/
theorem cellsBelow_eq {α : Type} [Cell α] (ρ : Rule) (rows : List (List α)) (d : Nat) (some : rows ≠ [])
    (sizes : ∀ row ∈ rows, row.length = 2 * d + 1) :
    ρ.cellsBelow rows d = .ok (rows.map fun row => ρ.steps d (Tape.ofRow (row.map Cell.alive)) d) := by
  have first : (rows.headD []).length = 2 * d + 1 := by
    obtain ⟨row, rest, rfl⟩ := List.exists_cons_of_ne_nil some
    exact sizes row (by simp)
  unfold Rule.cellsBelow
  rw [first, checkLength_ok, Int.toNat_natCast]
  refine congrArg Except.ok (List.map_congr_left ?_)
  intro row member
  have whole : row.map Cell.alive = window (Tape.ofRow (row.map Cell.alive)) 0 (2 * d + 1) := by
    rw [← sizes row member, ← List.length_map, window_ofRow]
  have reduced : ρ.reduceTimes d (row.map Cell.alive) = [ρ.steps d (Tape.ofRow (row.map Cell.alive)) d] := by
    conv_lhs => rw [whole]
    rw [reduceTimes_cone, Int.zero_add]
  have bytes : (row.map fun a => cellByte (Cell.alive a)) = (row.map Cell.alive).map cellByte := by simp
  rw [bytes, reduceBytesTimes_eq, reduced]
  exact cellByte_ne_zero _

/-! ## Living assignments -/

/-- The cell below the middle of an assignment is alive. -/
def lives (row : Nat) (cells : Assignment) : Bool := rule110.steps row (Tape.ofRow cells) row

/-- The assignments of a row's windows that make the cell alive, in the order of their codes. -/
def living (row : Nat) : List Assignment := (allAssignments (2 * row + 1)).filter (lives row)

theorem mem_living (row : Nat) (cells : Assignment) :
    cells ∈ living row ↔ cells.length = 2 * row + 1 ∧ lives row cells = true := by
  rw [living, List.mem_filter, mem_allAssignments]

theorem living_nodup (row : Nat) : (living row).Nodup := (allAssignments_nodup _).filter _

theorem living_sorted (row : Nat) : (living row).Pairwise (· < ·) := (allAssignments_sorted _).filter _

theorem codeMatrix_row (row : Nat) : codeMatrix (2 * row + 1) = .ok (allAssignments (2 * row + 1)) :=
  codeMatrix_eq (2 * row + 1)

theorem livingMask_eq (row : Nat) : livingMask row = .ok ((allAssignments (2 * row + 1)).map (lives row)) := by
  have notEmpty : allAssignments (2 * row + 1) ≠ [] := by
    have member : List.replicate (2 * row + 1) false ∈ allAssignments (2 * row + 1) :=
      (mem_allAssignments _ _).mpr List.length_replicate
    exact List.ne_nil_of_mem member
  unfold livingMask
  rw [codeMatrix_row]
  simp only
  rw [cellsBelow_eq rule110 _ row notEmpty (fun cells member => (mem_allAssignments _ _).mp member)]
  simp only [map_alive]
  rfl

theorem masked_eq_filter (items : List Assignment) (keep : Assignment → Bool) :
    ((items.zip (items.map keep)).filter (·.2)).map (·.1) = items.filter keep := by
  induction items with
  | nil => rfl
  | cons item rest ih => cases kept : keep item <;> simp [kept, ih]

theorem livingAssignments_eq (row : Nat) : livingAssignments row = .ok (living row) := by
  unfold livingAssignments
  rw [codeMatrix_row, livingMask_eq]
  exact congrArg Except.ok (masked_eq_filter _ _)

/-- The cells of a window of a tape make a living assignment where the tape is alive below the window's middle. -/
theorem window_mem_living (g : Tape) (row : Nat) (col : Int) :
    window g (col - row) (2 * row + 1) ∈ living row ↔ rule110.steps row g col = true := by
  have same : lives row (window g (col - row) (2 * row + 1)) = rule110.steps row g col := by
    apply steps_congr
    intro k inside
    rw [Int.sub_self, Int.zero_add, ofRow_getElem _ k (by rw [window_length]; exact inside), window_getElem]
  rw [mem_living, window_length, same]
  simp

end TapeSheet.Enumeration
