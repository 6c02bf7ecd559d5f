/-! # Seeds as words

A seed of any size is consumed as its 32-bit words, the least significant one first; zero is one
word.
-/

namespace MoteTrial.Random

/-- The 32-bit words of a number, least significant first, without a zero word at the top. -/
def wordsOf (n : Nat) : List UInt32 :=
  if h : n = 0 then []
  else UInt32.ofNat (n % 2 ^ 32) :: wordsOf (n / 2 ^ 32)
termination_by n
decreasing_by exact Nat.div_lt_self (Nat.pos_of_ne_zero h) (by decide)

/-- The words that a seed is consumed as. -/
def seedWords (seed : Nat) : List UInt32 :=
  match wordsOf seed with
  | [] => [0]
  | words => words

end MoteTrial.Random
