/-!
# Seeded random bits

A stream of fair bits that depends on a seed alone. The words of the seed are mixed into a pool of four words, the
pool gives state and increment of a 128-bit linear congruential generator, and each step gives a 64-bit word by
folding the state and rotating it. A bit is set when the upper 53 bits of its word exceed one half.
-/

namespace TapeSheet.RandomBits

/-! ## Mixing a seed -/

/-- Little-endian 32-bit words of a number; the fuel bounds their count. -/
def wordsFrom : Nat → Nat → List UInt32
  | 0, _ => []
  | fuel + 1, n => if n = 0 then [] else UInt32.ofNat (n % Nat.pow 2 32) :: wordsFrom fuel (n / Nat.pow 2 32)

/-- Little-endian 32-bit words of a number, without zeros at the end. -/
def words (n : Nat) : List UInt32 := wordsFrom (n.log2 + 1) n

/-- A word folded onto its lower half. -/
def folded (word : UInt32) : UInt32 := word ^^^ (word >>> 16)

/-- A running multiplier, and words hashed with it so far. -/
structure Hash where
  multiplier : UInt32

/-- Hashes one word; the multiplier moves on. -/
def Hash.mix (h : Hash) (word : UInt32) : UInt32 × Hash :=
  let next := h.multiplier * 0x931e8875
  (folded ((word ^^^ h.multiplier) * next), ⟨next⟩)

/-- Combines a pool word with a hashed word. -/
def combine (word hashed : UInt32) : UInt32 := folded (0xca01f9dd * word - 0x4973f715 * hashed)

/-- A pool of four words and the running hash. -/
structure Pool where
  slots : List UInt32
  hash : Hash

namespace Pool

/-- The hashed first four words of a seed, with zeros for missing ones. -/
def start (seed : List UInt32) : Pool :=
  (List.range 4).foldl
    (fun pool i =>
      let (word, hash) := pool.hash.mix (seed.getD i 0)
      ⟨pool.slots ++ [word], hash⟩)
    ⟨[], ⟨0x43b0d7e5⟩⟩

/-- Mixes a word into one slot. -/
def stir (pool : Pool) (slot : Nat) (word : UInt32) : Pool :=
  let (hashed, hash) := pool.hash.mix word
  ⟨pool.slots.modify slot fun old => combine old hashed, hash⟩

/-- Mixes every slot into every other one. -/
def cross (pool : Pool) : Pool :=
  (List.range 4).foldl
    (fun pool source =>
      (List.range 4).foldl
        (fun pool slot => if slot = source then pool else pool.stir slot (pool.slots.getD source 0))
        pool)
    pool

/-- Mixes a word into all slots. -/
def absorb (pool : Pool) (word : UInt32) : Pool :=
  (List.range 4).foldl (fun pool slot => pool.stir slot word) pool

/-- The pool of a seed. -/
def ofSeed (seed : Nat) : Pool :=
  let seed := words seed
  (seed.drop 4).foldl absorb (start seed).cross

/-- Eight words drawn from a pool, going round its slots. -/
def draw (pool : Pool) : List UInt32 :=
  ((List.range 8).foldl
    (fun (drawn, multiplier) (i : Nat) =>
      let next : UInt32 := multiplier * 0x58f38ded
      (drawn ++ [folded ((pool.slots.getD (i % 4) 0 ^^^ multiplier) * next)], next))
    (([], 0x8b51f9dd) : List UInt32 × UInt32)).1

end Pool

/-! ## The stream -/

/-- State and increment of the generator. -/
structure Stream where
  state : BitVec 128
  increment : BitVec 128

/-- Multiplier of the generator. -/
def multiplier : BitVec 128 := 0x2360ED051FC65DA44385DF649FCCF645

namespace Stream

/-- Four 32-bit words as one number, each pair with the lower half first and the higher pair first. -/
def wide (a b c d : UInt32) : BitVec 128 := b.toBitVec ++ a.toBitVec ++ d.toBitVec ++ c.toBitVec

/-- The stream of a seed. -/
def ofSeed (seed : Nat) : Stream :=
  let drawn := (Pool.ofSeed seed).draw
  let word (i : Nat) := drawn.getD i 0
  let start := wide (word 0) (word 1) (word 2) (word 3)
  let increment := wide (word 4) (word 5) (word 6) (word 7) <<< 1 ||| 1
  ⟨(increment + start) * multiplier + increment, increment⟩

/-- The stream after one step. -/
def advance (s : Stream) : Stream := ⟨s.state * multiplier + s.increment, s.increment⟩

/-- The 64-bit word of a state. -/
def word (s : Stream) : BitVec 64 :=
  (s.state.extractLsb' 64 64 ^^^ s.state.extractLsb' 0 64).rotateRight (s.state.extractLsb' 122 6).toNat

/-- The bit of a state. -/
def bit (s : Stream) : Bool := Nat.pow 2 52 < (s.word >>> 11).toNat

/-- The next bits of a stream. -/
def take : Nat → Stream → List Bool
  | 0, _ => []
  | n + 1, s =>
    let next := s.advance
    next.bit :: take n next

end Stream

end TapeSheet.RandomBits
