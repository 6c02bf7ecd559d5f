import MoteTrial.Random.Pcg64
import MoteTrial.Random.Twister

/-! # Sources of chance

A simulation takes chance from two places: one draw for each frame on a link, one delay for each
send interval of a client. Either comes from its seeded generator or from a recorded tape, so that a
statement about all tapes speaks of every outcome that chance could have.
-/

namespace MoteTrial.Random

/-- Where the draws for radio frames come from; a draw is a numerator over 2 ^ 53. -/
inductive Draws where
  | seeded (generator : Pcg64)
  | tape (draw : Nat → Fin (2 ^ 53)) (position : Nat)

/-- The next draw. -/
def Draws.next : Draws → Fin (2 ^ 53) × Draws
  | .seeded generator => let (k, generator) := generator.draw; (k, .seeded generator)
  | .tape draw position => (draw position, .tape draw (position + 1))

/-- Where the delays of clients come from. -/
inductive Jitter where
  | seeded (generator : Twister)
  | tape (delay : Nat → Nat) (position : Nat)

/-- The next delay, at most `bound`; a taped delay beyond the bound counts as the bound. -/
def Jitter.next (bound : Nat) : Jitter → Nat × Jitter
  | .seeded generator => let (r, generator) := generator.below bound 4096; (r, .seeded generator)
  | .tape delay position => (min (delay position) bound, .tape delay (position + 1))

theorem Jitter.next_le (bound : Nat) (jitter : Jitter) : (jitter.next bound).1 ≤ bound := by
  cases jitter with
  | seeded generator => exact generator.below_le bound 4096
  | tape delay position => exact Nat.min_le_right _ _

end MoteTrial.Random
