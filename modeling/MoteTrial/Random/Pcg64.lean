import MoteTrial.Random.Words

/-! # Permuted congruential generator

A 128-bit linear congruential generator whose output is a rotation of the folded state, seeded by
hashing the words of the seed into a pool of four words. `Pcg64.draw` takes the upper 53 bits of an
output, the numerator of a fraction of 2 ^ 53.
-/

namespace MoteTrial.Random

/-- The state of the generator; both parts are below 2 ^ 128. -/
structure Pcg64 where
  state : Nat
  increment : Nat
  deriving DecidableEq, Repr, Inhabited

namespace Pcg64

/-- The multiplier of the congruence. -/
def multiplier : Nat := 0x2360ED051FC65DA44385DF649FCCF645

/-- Hashes a word with a running constant and returns the next constant as well. -/
def hashWord (constant step value : UInt32) : UInt32 × UInt32 :=
  let next := constant * step
  let mixed := (value ^^^ constant) * next
  (mixed ^^^ (mixed >>> 16), next)

/-- Combines two words of the pool. -/
def mixWords (x y : UInt32) : UInt32 :=
  let r := 0xca01f9dd * x - 0x4973f715 * y
  r ^^^ (r >>> 16)

/-- The pool of four words with the running constant of its hash. -/
structure Pool where
  words : Array UInt32
  constant : UInt32

namespace Pool

/-- Hashes a word and advances the constant. -/
def hash (pool : Pool) (value : UInt32) : UInt32 × Pool :=
  let (hashed, constant) := hashWord pool.constant 0x931e8875 value
  (hashed, { pool with constant })

/-- Appends the hash of a word to the pool. -/
def fill (pool : Pool) (value : UInt32) : Pool :=
  let (hashed, pool) := pool.hash value
  { pool with words := pool.words.push hashed }

/-- Mixes the hash of a word into one place of the pool. -/
def stir (pool : Pool) (place : Nat) (value : UInt32) : Pool :=
  let (hashed, pool) := pool.hash value
  { pool with words := pool.words.modify place (mixWords · hashed) }

/-- Mixes every word of the pool into every other one. -/
def stirAll (pool : Pool) : Pool :=
  [0, 1, 2, 3].foldl (fun pool source =>
    [0, 1, 2, 3].foldl (fun pool place =>
      if source = place then pool else pool.stir place (pool.words.getD source 0)) pool) pool

/-- Mixes one further word of the seed into all four places. -/
def absorb (pool : Pool) (value : UInt32) : Pool :=
  [0, 1, 2, 3].foldl (fun pool place => pool.stir place value) pool

/-- The pool that a seed fills. -/
def ofSeed (words : List UInt32) : Pool :=
  let empty : Pool := ⟨#[], 0x43b0d7e5⟩
  let full := [0, 1, 2, 3].foldl (fun pool place => fill pool (words.getD place 0)) empty
  (words.drop 4).foldl absorb full.stirAll

/-- Eight words drawn from the pool. -/
def output (pool : Pool) : List UInt32 :=
  (((List.range 8).foldl (fun (out, constant) place =>
    let (word, next) := hashWord constant 0x58f38ded (pool.words.getD (place % 4) 0)
    (word :: out, next)) (([] : List UInt32), (0x8b51f9dd : UInt32))).1).reverse

end Pool

/-- Two words as one of 64 bits, the low one first. -/
def joinWords : List UInt32 → List Nat
  | low :: high :: rest => (low.toNat + high.toNat * 2 ^ 32) :: joinWords rest
  | _ => []

/-- One step of the congruence. -/
def advance (g : Pcg64) : Pcg64 :=
  { g with state := (g.state * multiplier + g.increment) % 2 ^ 128 }

/-- The generator for a seed. -/
def ofSeed (seed : Nat) : Pcg64 :=
  let q := joinWords (Pool.ofSeed (seedWords seed)).output
  let initial := q.getD 0 0 * 2 ^ 64 + q.getD 1 0
  let stream := q.getD 2 0 * 2 ^ 64 + q.getD 3 0
  let increment := (2 * stream + 1) % 2 ^ 128
  advance ⟨(increment + initial) % 2 ^ 128, increment⟩

/-- Rotates a word of 64 bits to the right. -/
def rotateRight (x amount : Nat) : Nat :=
  x / 2 ^ amount + (x % 2 ^ amount) * 2 ^ (64 - amount)

/-- The next output of 64 bits. -/
def next (g : Pcg64) : Nat × Pcg64 :=
  let g := g.advance
  let folded := (g.state / 2 ^ 64) ^^^ (g.state % 2 ^ 64)
  (rotateRight folded (g.state / 2 ^ 122) % 2 ^ 64, g)

/-- The next draw, a numerator below 2 ^ 53. -/
def draw (g : Pcg64) : Fin (2 ^ 53) × Pcg64 :=
  let (word, g) := g.next
  (⟨word / 2 ^ 11 % 2 ^ 53, Nat.mod_lt _ (by decide)⟩, g)

end Pcg64

end MoteTrial.Random
