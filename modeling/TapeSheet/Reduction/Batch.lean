import TapeSheet.Reduction

/-!
# Reducing many windows at once

All rows of a matrix are reduced together. Cells are bytes, and a step looks the code of every neighbourhood up in
the table of the rule.
-/

namespace TapeSheet

/-- A block of things with any number of dimensions: one thing, or a list of blocks. -/
inductive Block (α : Type)
  | item (a : α)
  | list (blocks : List (Block α))

namespace Block

/-- Number of dimensions, by the first block at each level. -/
def dimensions {α : Type} : Block α → Nat
  | .item _ => 0
  | .list [] => 1
  | .list (first :: _) => first.dimensions + 1

/-- The thing that a block of no dimensions is. -/
def item? {α : Type} : Block α → Option α
  | .item a => some a
  | .list _ => none

/-- The things in a block of one dimension. -/
def row {α : Type} : Block α → List α
  | .item _ => []
  | .list blocks => blocks.filterMap item?

/-- The rows of a block of two dimensions. -/
def rows {α : Type} : Block α → List (List α)
  | .item _ => []
  | .list blocks => blocks.map row

/-- The block of two dimensions with the given rows. -/
def ofRows {α : Type} (rows : List (List α)) : Block α :=
  .list (rows.map fun row => .list (row.map .item))

end Block

/-- A cell as a byte. -/
def cellByte (alive : Bool) : UInt8 := if alive then 1 else 0

/-- Code of a neighbourhood of three bytes. -/
def byteCode (left center right : UInt8) : UInt8 := (left <<< 2) ||| (center <<< 1) ||| right

/-- One step on a row of bytes: what the table has at the code of every three neighbours. -/
def Rule.reduceBytes (table : List UInt8) : List UInt8 → List UInt8
  | left :: center :: right :: rest =>
    table.getD (byteCode left center right).toNat 0 :: reduceBytes table (center :: right :: rest)
  | _ => []

/-- A number of steps on a row of bytes. -/
def Rule.reduceBytesTimes (table : List UInt8) : Nat → List UInt8 → List UInt8
  | 0, row => row
  | n + 1, row => Rule.reduceBytesTimes table n (Rule.reduceBytes table row)

/-- The cells below the middles of the rows of a matrix; the first row gives the width. -/
def Rule.cellsBelow {α : Type} [Cell α] (ρ : Rule) (rows : List (List α)) (depth : Int) :
    Except Fault (List Bool) :=
  match checkLength (rows.headD []).length depth with
  | .error fault => .error fault
  | .ok () =>
    let table := ρ.table.map cellByte
    .ok (rows.map fun row =>
      (Rule.reduceBytesTimes table depth.toNat (row.map fun a => cellByte (Cell.alive a))).headD 0 != 0)

/-- The cells below the middles of the rows of a block, which has to have two dimensions. -/
def Rule.cellsBelowBlock {α : Type} [Cell α] (ρ : Rule) (block : Block α) (depth : Int) :
    Except Fault (List Bool) :=
  if block.dimensions ≠ 2 then .error (.shape (.dimensions block.dimensions))
  else ρ.cellsBelow block.rows depth

end TapeSheet
