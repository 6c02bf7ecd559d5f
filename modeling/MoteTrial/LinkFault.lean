import MoteTrial.Message

/-! # State of the link-fault script

The two ends of the controlled link, bound when they announce themselves, and the changes made to
the link so far.
-/

namespace MoteTrial

/-- What the link-fault script remembers. -/
structure LinkFault where
  first : Option Int := none
  third : Option Int := none
  degraded : Bool := false
  deteriorations : Nat := 0
  improvements : Nat := 0
  logged : Nat := 0
  deriving DecidableEq, Repr, Inhabited

namespace LinkFault

/-- Binds an end of the link to a mote. -/
def bind (s : LinkFault) (endpoint : Endpoint) (mote : Int) : LinkFault :=
  match endpoint with
  | .first => { s with first := some mote }
  | .third => { s with third := some mote }

/-- Whether both ends have announced themselves. -/
def bound (s : LinkFault) : Bool := s.first.isSome && s.third.isSome

/-- The motes at the two ends, which a line with `keyword` needs. -/
def endpoints (s : LinkFault) (keyword : String) : Except Failure (Int × Int) :=
  match s.first, s.third with
  | some a, some b => .ok (a, b)
  | first, third => .error (.unboundEndpoint keyword first third)

theorem endpoints_eq_ok_iff {s : LinkFault} {keyword : String} {a b : Int} :
    s.endpoints keyword = .ok (a, b) ↔ s.first = some a ∧ s.third = some b := by
  unfold endpoints
  split
  · rename_i first third
    simp [first, third]
  · rename_i missing
    constructor
    · intro h
      cases h
    · rintro ⟨first, third⟩
      exact (missing a b first third).elim

end LinkFault

end MoteTrial
