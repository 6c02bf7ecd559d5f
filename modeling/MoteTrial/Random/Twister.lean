import MoteTrial.Random.Words

/-! # Twisted shift register

The generator with 624 words of state and period 2 ^ 19937 - 1, seeded from an array of words.
`Twister.bits` joins outputs to a number of any width.
-/

namespace MoteTrial.Random

/-- The state of the generator: 624 words and the place of the next one to be used. -/
structure Twister where
  words : Array UInt32
  index : Nat
  deriving Inhabited

namespace Twister

/-- The number of words of the state. -/
def size : Nat := 624

/-- The distance between the words that are combined. -/
def shift : Nat := 397

/-- The state that a single word spreads to. -/
def spread (word : UInt32) : Array UInt32 :=
  ((List.range (size - 1)).foldl (fun (words, previous) i =>
    let next : UInt32 := (1812433253 : UInt32) * (previous ^^^ (previous >>> 30)) + UInt32.ofNat (i + 1)
    (words.push next, next)) (#[word], word)).1

/-- The loop state of the seeding: the words and the place that was written last. -/
structure Seeding where
  words : Array UInt32
  place : Nat

/-- Writes the next word and copies the last one to the front when the end is reached. -/
def Seeding.write (s : Seeding) (combine : UInt32 → UInt32 → UInt32) : Seeding :=
  let before := s.words.getD (s.place - 1) 0
  let words := s.words.modify s.place (combine (before ^^^ (before >>> 30)))
  if size ≤ s.place + 1 then ⟨words.setIfInBounds 0 (words.getD (size - 1) 0), 1⟩
  else ⟨words, s.place + 1⟩

/-- The generator for an array of words. -/
def ofWords (key : List UInt32) : Twister :=
  let start : Seeding := ⟨spread 19650218, 1⟩
  let length := key.length
  let keys := key.toArray
  let first := (List.range (max size length)).foldl (fun s k =>
    let j := k % length
    s.write fun mixed word => (word ^^^ (mixed * 1664525)) + keys.getD j 0 + UInt32.ofNat j) start
  let second := (List.range (size - 1)).foldl (fun s _ =>
    let place := UInt32.ofNat s.place
    s.write fun mixed word => (word ^^^ (mixed * 1566083941)) - place) first
  ⟨second.words.setIfInBounds 0 0x80000000, size⟩

/-- The generator for a seed. -/
def ofSeed (seed : Nat) : Twister := ofWords (seedWords seed)

/-- One word of the next generation of the state. -/
def twist (words : Array UInt32) (i : Nat) : UInt32 :=
  let joined := (words.getD i 0 &&& 0x80000000) ||| (words.getD ((i + 1) % size) 0 &&& 0x7fffffff)
  words.getD ((i + shift) % size) 0 ^^^ (joined >>> 1) ^^^
    (if joined &&& 1 = 0 then 0 else 0x9908b0df)

/-- The next generation of the state. -/
def regenerate (words : Array UInt32) : Array UInt32 :=
  (List.range size).foldl (fun words i => words.setIfInBounds i (twist words i)) words

/-- The final mixing of an output. -/
def temper (y : UInt32) : UInt32 :=
  let y := y ^^^ (y >>> 11)
  let y := y ^^^ ((y <<< 7) &&& 0x9d2c5680)
  let y := y ^^^ ((y <<< 15) &&& 0xefc60000)
  y ^^^ (y >>> 18)

/-- The next output of 32 bits. -/
def next (t : Twister) : UInt32 × Twister :=
  if t.index < size then (temper (t.words.getD t.index 0), { t with index := t.index + 1 })
  else
    let words := regenerate t.words
    (temper (words.getD 0 0), ⟨words, 1⟩)

/-- A number of the given width from `outputs + 1` outputs, the least significant one first; the
last one gives its upper bits only. -/
def joinOutputs : Nat → Nat → Twister → Nat × Twister
  | 0, width, t =>
    let (word, t) := t.next
    (word.toNat / 2 ^ (32 - width), t)
  | outputs + 1, width, t =>
    let (word, t) := t.next
    let (rest, t) := joinOutputs outputs (width - 32) t
    (word.toNat + rest * 2 ^ 32, t)

/-- A number of the given positive width in bits. -/
def bits (width : Nat) (t : Twister) : Nat × Twister := joinOutputs ((width - 1) / 32) width t

/-- A number that is at most `bound`: tries numbers of the bound's width until one is small enough.
Each try fails with probability below one half; after `fuel` failures the answer is zero. -/
def below (bound : Nat) : Nat → Twister → Nat × Twister
  | 0, t => (0, t)
  | fuel + 1, t =>
    let (r, t) := t.bits ((bound + 1).log2 + 1)
    if r ≤ bound then (r, t) else below bound fuel t

theorem below_le (bound fuel : Nat) (t : Twister) : (t.below bound fuel).1 ≤ bound := by
  induction fuel generalizing t with
  | zero => simp [below]
  | succ fuel ih =>
    simp only [below]
    split
    · assumption
    · exact ih _

end Twister

end MoteTrial.Random
