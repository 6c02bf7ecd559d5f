/-! # Accounting for received counters

`Reception` follows a sequence of counters. Each counter that jumps ahead loses the numbers jumped
over, each one that does not advance is out of order.
-/

namespace MoteTrial

/-- The counters seen so far, in numbers. -/
structure Reception where
  last : Int := 0
  lost : Nat := 0
  received : Nat := 0
  outOfOrder : Nat := 0
  deriving DecidableEq, Repr, Inhabited

namespace Reception

/-- The numbers that a counter jumps over. -/
def gap (r : Reception) (counter : Int) : Nat := (counter - r.last - 1).toNat

/-- Accounts for one counter. -/
def record (r : Reception) (counter : Int) : Reception where
  last := counter
  lost := r.lost + r.gap counter
  received := r.received + 1
  outOfOrder := if counter ≤ r.last then r.outOfOrder + 1 else r.outOfOrder

/-- Accounts for counters in order. -/
def recordAll (r : Reception) (counters : List Int) : Reception := counters.foldl record r

/-- Success: the last counter is not zero and none was lost. -/
def success (r : Reception) : Bool := r.last != 0 && r.lost == 0

@[simp] theorem record_last (r : Reception) (counter : Int) : (r.record counter).last = counter :=
  rfl

@[simp] theorem record_lost (r : Reception) (counter : Int) :
    (r.record counter).lost = r.lost + r.gap counter := rfl

@[simp] theorem record_received (r : Reception) (counter : Int) :
    (r.record counter).received = r.received + 1 := rfl

theorem lost_le_record (r : Reception) (counter : Int) : r.lost ≤ (r.record counter).lost :=
  Nat.le_add_right _ _

end Reception

end MoteTrial
