import TapeSheet.Fault
import TapeSheet.RandomBits

/-!
# Presets

Named root rows. Generated presets fill the whole row; fixed patterns stand two cells from the right edge, because
the structures of Rule 110 drift to the left, and are cut off at the end of a row that is too short.
-/

namespace TapeSheet

/-- How a row of any length is generated. -/
inductive Generator
  | noise
  | single
  | alternating
  | dense

/-- How a preset fills a row. -/
inductive PresetSource
  | generated (generator : Generator)
  | pattern (cells : List Nat)

/-- A named root row. -/
structure Preset where
  key : String
  name : String
  description : String
  source : PresetSource

namespace Preset

/-- All presets. -/
def catalogue : List Preset :=
  [{ key := "random"
     name := "Random Noise"
     description := "A random distribution of bits. Often settles into stable periodic structures."
     source := .generated .noise },
   { key := "single"
     name := "Single Cell"
     description := "A single active cell at the right edge. Generates the classic Rule 110 triangle."
     source := .generated .single },
   { key := "alternating"
     name := "Alternating"
     description := "1-0-1-0 pattern. Creates a chaotic interaction zone."
     source := .generated .alternating },
   { key := "spaceship_A"
     name := "Standard Glider"
     description := "One of the most common background structures in Rule 110."
     source := .pattern [0, 0, 0, 1, 1, 0, 1, 1, 1, 0, 0, 0] },
   { key := "repeater"
     name := "Simple Repeater"
     description := "A small periodic structure."
     source := .pattern [1, 1, 1, 0, 1, 0, 0, 1, 1, 0] },
   { key := "ether"
     name := "Ether Pattern"
     description := "The background texture of Rule 110."
     source := .pattern [0, 0, 1, 1, 1, 0, 1, 1, 0, 1, 1, 1, 1, 1, 0, 0, 0, 1] },
   { key := "gun_variant"
     name := "Glider Gun Variant"
     description := "Produces multiple gliders over time."
     source := .pattern [1, 1, 1, 0, 1, 1, 0, 1, 0, 0, 0, 1, 1, 1, 0, 0, 1] },
   { key := "chaos_A"
     name := "Chaos Seed A"
     description := "A small seed that grows chaotically."
     source := .pattern [0, 0, 0, 1, 1, 1, 0, 1, 1, 1, 0, 0, 0] },
   { key := "chaos_B"
     name := "Chaos Seed B"
     description := "Another chaotic seed."
     source := .pattern [1, 0, 1, 0, 0, 1, 0, 0, 0, 1, 1] },
   { key := "oscillator_long"
     name := "Long Oscillator"
     description := "Repeats after many generations."
     source := .pattern [1, 1, 1, 1, 1, 0, 0, 0, 1, 0, 0, 1, 1, 0, 1] },
   { key := "dense"
     name := "Dense Block"
     description := "A solid block of 1s."
     source := .generated .dense }]

/-- Keys of all presets in catalogue order. -/
def keys : List String := catalogue.map (·.key)

/-- Keys of all presets in the order of their characters. -/
def sortedKeys : List String := keys.mergeSort fun a b => a ≤ b

end Preset

/-- A row of `cols` cells that are alive where a condition on their index holds. -/
def rowWhere (cols : Nat) (alive : Nat → Bool) : List Bool := (List.range cols).map alive

/-- The generated row of `cols` cells for a seed. -/
def Generator.row (cols seed : Nat) : Generator → List Bool
  | noise => (RandomBits.Stream.ofSeed seed).take cols
  | single => rowWhere cols fun i => i + 1 = cols
  | alternating => rowWhere cols fun i => i % 2 = 0
  | dense => rowWhere cols fun i => cols / 2 - 5 ≤ i && i < cols / 2 + 6

/-- A pattern on a dead row of `cols` cells, from the cell `first` on and as far as the row goes. -/
def placed (cols first : Nat) (cells : List Nat) : List Bool :=
  rowWhere cols fun i => first ≤ i && cells.getD (i - first) 0 != 0

/-- The row of a source. Generated rows need a seed that is not negative, whether they use it or not. -/
def PresetSource.row (cols : Nat) (seed : Int) : PresetSource → Except Fault (List Bool)
  | generated generator =>
    if seed < 0 then .error (.range .negativeSeed) else .ok (generator.row cols seed.toNat)
  | pattern cells => .ok (placed cols (cols - (cells.length + 2)) cells)

/-- Seed of the random preset where none is given. -/
def defaultSeed : Int := 42

/-- The root row of `cols` cells for the preset with a key. The seed only affects the random one. -/
def presetRow (key : Value) (cols seed : Int) : Except Fault (List Bool) :=
  match key with
  | .list _ | .map _ | .set _ => .error (.type (.unhashable key.typeName))
  | _ =>
    match Preset.catalogue.find? fun preset => key == .ofString preset.key with
    | none => .error (.range (.unknownPreset key Preset.sortedKeys))
    | some preset => if cols ≤ 0 then .error (.range (.emptyTape cols)) else preset.source.row cols.toNat seed

end TapeSheet
