import MoteTrial.Reception

/-! # The balance of an account of counters

A counter that jumps ahead is booked as a loss, one that does not advance as out of order, and neither
makes good the other. What the account of any counters holds is then the balance of their jumps: how far
the last one has come, and how far they went back on the way, is what was received and lost together.
-/

namespace MoteTrial.Reception

/-- The gaps that are found when counters are recorded one after the other. -/
def gapsFound : Reception → List Int → List Nat
  | _, [] => []
  | r, c :: rest => r.gap c :: gapsFound (r.record c) rest

/-- The moves from each counter to the next, the first one from an earlier counter. -/
def moves (start : Int) (counters : List Int) : List (Int × Int) := (start :: counters).zip counters

/-- How many counters do not advance. -/
def stalls (start : Int) (counters : List Int) : Nat :=
  (moves start counters).countP fun move => move.2 ≤ move.1

/-- How far all moves together stay behind an advance by one. -/
def setback (start : Int) (counters : List Int) : Int :=
  ((moves start counters).map fun move => max 0 (move.1 + 1 - move.2)).sum

section Moves

variable {start c : Int} {cs : List Int}

theorem stalls_cons (start c : Int) (cs : List Int) :
    stalls start (c :: cs) = stalls c cs + if c ≤ start then 1 else 0 := by
  change ((start, c) :: moves c cs).countP _ = _
  rw [List.countP_cons]
  simp only [decide_eq_true_eq]
  rfl

theorem setback_cons (start c : Int) (cs : List Int) :
    setback start (c :: cs) = max 0 (start + 1 - c) + setback c cs :=
  List.sum_cons

/-- A counter that does not advance stays behind by one at least. -/
theorem stalls_le_setback (start : Int) (cs : List Int) :
    (stalls start cs : Int) ≤ setback start cs := by
  induction cs generalizing start with
  | nil => exact Int.le_refl 0
  | cons c rest ih =>
    have later := ih c
    rw [stalls_cons, setback_cons]
    split <;> omega

/-- Counters that all advance never stay behind. -/
theorem setback_eq_zero (advancing : stalls start cs = 0) : setback start cs = 0 := by
  induction cs generalizing start with
  | nil => rfl
  | cons c rest ih =>
    rw [stalls_cons] at advancing
    split at advancing
    · omega
    · have others : stalls c rest = 0 := advancing
      rw [setback_cons, ih others]
      omega

end Moves

section Account

/-- One counter: what it advances, and what it stays behind, is booked. -/
theorem record_balances (r : Reception) (c : Int) :
    (r.record c).last + max 0 (r.last + 1 - c) = r.last + 1 + r.gap c := by
  rw [record_last, gap]
  omega

theorem lost_eq_sum_gapsFound (r : Reception) (cs : List Int) :
    (r.recordAll cs).lost = r.lost + (gapsFound r cs).sum := by
  induction cs generalizing r with
  | nil => rfl
  | cons c rest ih =>
    calc (r.recordAll (c :: rest)).lost = (r.record c).lost + (gapsFound (r.record c) rest).sum :=
          ih (r.record c)
      _ = r.lost + (gapsFound r (c :: rest)).sum := by
          rw [record_lost, gapsFound, List.sum_cons, Nat.add_assoc]

theorem received_recordAll (r : Reception) (cs : List Int) :
    (r.recordAll cs).received = r.received + cs.length := by
  induction cs generalizing r with
  | nil => rfl
  | cons c rest ih =>
    have later : (r.recordAll (c :: rest)).received = (r.record c).received + rest.length :=
      ih (r.record c)
    rw [later, record_received, List.length_cons]
    omega

theorem outOfOrder_recordAll (r : Reception) (cs : List Int) :
    (r.recordAll cs).outOfOrder = r.outOfOrder + stalls r.last cs := by
  induction cs generalizing r with
  | nil => rfl
  | cons c rest ih =>
    have later : (r.recordAll (c :: rest)).outOfOrder =
        (if c ≤ r.last then r.outOfOrder + 1 else r.outOfOrder) + stalls c rest := ih (r.record c)
    rw [later, stalls_cons]
    split <;> omega

/-- From any account, the balance grows by what is booked. By induction on the counters, each of them
adding its own balance. -/
theorem recordAll_balances (r : Reception) (cs : List Int) :
    (r.recordAll cs).last + setback r.last cs - ((r.recordAll cs).received + (r.recordAll cs).lost) =
      r.last - (r.received + r.lost) := by
  induction cs generalizing r with
  | nil => simp [recordAll, setback, moves]
  | cons c rest ih =>
    have later := ih (r.record c)
    have here := record_balances r c
    change ((r.recordAll (c :: rest)).last + setback c rest -
      ((r.recordAll (c :: rest)).received + (r.recordAll (c :: rest)).lost) : Int) = _ at later
    rw [record_last, record_received, record_lost] at later
    rw [record_last] at here
    rw [setback_cons]
    omega

/-- The books of any counters: the gaps that were found add up to the losses, every counter is
received, those that do not advance are out of order, and the balance holds. So at least as many
counters are lost as the last one is ahead of their number, with one more for each that is out of order,
and just as many as it is ahead only where all are in order. -/
theorem account_balances (counters : List Int) :
    let r := recordAll {} counters
    (gapsFound {} counters).sum = r.lost ∧ r.received = counters.length ∧
      r.outOfOrder = stalls 0 counters ∧ r.last + setback 0 counters = r.received + r.lost ∧
      r.last - r.received + r.outOfOrder ≤ r.lost ∧
      ((r.lost : Int) = r.last - r.received ↔ r.outOfOrder = 0) := by
  intro r
  have lost : r.lost = 0 + (gapsFound {} counters).sum := lost_eq_sum_gapsFound {} counters
  have received : r.received = 0 + counters.length := received_recordAll {} counters
  have outOfOrder : r.outOfOrder = 0 + stalls 0 counters := outOfOrder_recordAll {} counters
  have balance : r.last + setback 0 counters - (r.received + r.lost) = 0 - ((0 : Nat) + (0 : Nat)) :=
    recordAll_balances {} counters
  have behind := stalls_le_setback 0 counters
  refine ⟨by omega, by omega, by omega, by omega, by omega, fun ahead => by omega, fun ordered => ?_⟩
  have level : setback 0 counters = 0 := setback_eq_zero (by omega)
  omega

/-- Counters that jump ahead, come back, repeat, and go below zero. -/
example : recordAll {} [2, 5, 5, 1, -3, 4] = ⟨4, 9, 6, 3⟩ ∧ setback 0 [2, 5, 5, 1, -3, 4] = 11 ∧
    gapsFound {} [2, 5, 5, 1, -3, 4] = [1, 2, 0, 0, 0, 6] := by decide

end Account

end MoteTrial.Reception
