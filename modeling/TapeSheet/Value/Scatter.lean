import TapeSheet.Value

/-!
# The order of sets

Numbers in a set are listed in the order of their slots in a table: a number goes to the slot that its residue names,
or to a free one near it, or to one that is found by jumps which depend on all bits of the residue. All other members
are listed as they were put in.
-/

namespace TapeSheet.Scatter

/-- The prime to which residues are taken. -/
def modulus : Nat := Nat.pow 2 61 - 1

/-- A residue with a sign; minus one is not used. -/
def signed (negative : Bool) (residue : Nat) : Int :=
  if negative then (if residue = 1 then -2 else -(residue : Int)) else residue

/-- The residue of a number. Halving a number is multiplying it by a power of two, modulo the prime. -/
def residue? : Value → Option Int
  | .bool b => some (if b then 1 else 0)
  | .int n => some (signed (n < 0) (n.natAbs % modulus))
  | .float (.finite negative units) => some (signed negative (units % modulus * Nat.pow 2 24 % modulus))
  | .float (.infinite negative) => some (if negative then -314159 else 314159)
  | _ => none

/-- A residue as a word of 64 bits. -/
def word (residue : Int) : Nat := (residue % (Nat.pow 2 64 : Nat)).toNat

/-- The least power of two above a number, from a given one on. -/
def powerAbove (n : Nat) : Nat → Nat → Nat
  | 0, size => size
  | fuel + 1, size => if size ≤ n then powerAbove n fuel (2 * size) else size

/-- Number of slots for a number of members. -/
def slotCount (members : Nat) : Nat := if members * 5 < 21 then 8 else powerAbove (2 * members) 64 8

/-- Slots that are looked at one after the other, the first one included. -/
def stretch (slots index : Nat) : List Nat :=
  if index + 9 < slots then (List.range 10).map (index + ·) else [index]

/-- A free slot for a word, from a slot on. -/
def freeSlot (table : Array (Option Value)) : Nat → Nat → Nat → Nat
  | 0, _, index => index
  | fuel + 1, rest, index =>
    match (stretch table.size index).find? fun i => (table.getD i none).isNone with
    | some free => free
    | none =>
      let rest := rest / 32
      freeSlot table fuel rest ((index * 5 + 1 + rest) % table.size)

/-- Puts a number into a table. -/
def place (table : Array (Option Value)) (v : Value) : Array (Option Value) :=
  let w := word ((residue? v).getD 0)
  table.setIfInBounds (freeSlot table (table.size + 16) w (w % table.size)) (some v)

/-- The members of a set in the order in which they are listed. -/
def listed (members : List Value) : List Value :=
  if members.all fun v => (residue? v).isSome then
    (members.foldl place (Array.replicate (slotCount members.length) none)).toList.filterMap id
  else members

end TapeSheet.Scatter
