import MoteTrial.Proofs.Execution

/-! # Runs that come to an end

A run ends if some number goes down with every event that is fired. `Simulation.run_yields` draws from
this, and from a property that every event keeps, what a run leaves behind for any amount of fuel: it
has stopped, or failed, or the fuel was less than the number at its start. `Countdown.total` is such a
number for runs in which all times lie before a deadline and an event brings forth at most one other,
which is due at least a fixed interval later.
-/

namespace MoteTrial

open SimM

variable {κ μ : Type}

namespace Simulation

variable {fire : Event κ → SimM κ μ Unit} {keeps : World κ μ → Prop}
  {bad : Failure → World κ μ → Prop}

/-- A run whose every event keeps a property and lowers a number. -/
theorem run_yields (left : World κ μ → Nat)
    (fires : ∀ w, keeps w → w.scheduler.stopped = false →
      ∃ a s, w.scheduler.next? = some (a, s) ∧
        Yields (fun _ w' => keeps w'.finishEvent ∧ left w'.finishEvent < left w) bad
          (fire a.event { w with scheduler := s }))
    (fuel : Nat) (w : World κ μ) (start : keeps w) :
    match run fire none fuel w with
    | .ok time w' => keeps w' ∧ w'.scheduler.stopped = true ∧ time = w'.now
    | .error (.failure f) w' => bad f w'
    | .error .exhausted w' => keeps w' ∧ fuel ≤ left w := by
  induction fuel generalizing w with
  | zero => exact ⟨start, Nat.zero_le _⟩
  | succ fuel ih =>
    cases running : w.scheduler.stopped with
    | true =>
      rw [run_stopped running]
      exact ⟨start, running, rfl⟩
    | false =>
      obtain ⟨a, s, next, fired⟩ := fires w start running
      have due := Scheduler.nextDue?_of_takes (Scheduler.takes_of_next? next)
      rw [run_fires running due (by simp)]
      cases done : fire a.event { w with scheduler := s } with
      | ok _ w' =>
        rw [done] at fired
        obtain ⟨kept, lower⟩ := fired
        rw [bind_ok (step_ok running next done)]
        have rest := ih w'.finishEvent kept
        generalize run fire none fuel w'.finishEvent = ended at rest
        match ended, rest with
        | .ok time w', rest => exact rest
        | .error (.failure f) w', rest => exact rest
        | .error .exhausted w', ⟨kept, short⟩ => exact ⟨kept, by omega⟩
      | error i w' =>
        rw [done] at fired
        rw [bind_error (step_error running next done)]
        cases i with
        | failure f => exact fired
        | exhausted => exact fired.elim

/-- A run for which the fuel was enough is the same with more of it. -/
theorem run_more {bound : Option Int} (more fuel : Nat) (w : World κ μ)
    (enough : ∀ w', run fire bound fuel w ≠ .error .exhausted w') :
    run fire bound (fuel + more) w = run fire bound fuel w := by
  induction fuel generalizing w with
  | zero => exact absurd rfl (enough w)
  | succ fuel ih =>
    rw [Nat.add_right_comm]
    cases running : w.scheduler.stopped with
    | true => rw [run_stopped running, run_stopped running]
    | false =>
      cases due : w.scheduler.nextDue? with
      | none => rw [run_idle due, run_idle due]
      | some time =>
        by_cases soon : ∀ limit ∈ bound, time ≤ limit
        · rw [run_fires running due soon] at enough ⊢
          rw [run_fires running due soon]
          cases stepped : step fire w with
          | error i w' => rw [bind_error stepped, bind_error stepped]
          | ok fired w' =>
            rw [bind_ok stepped] at enough ⊢
            rw [bind_ok stepped]
            exact ih w' enough
        · obtain ⟨limit, rfl, later⟩ : ∃ limit, bound = some limit ∧ limit < time := by
            simpa using soon
          rw [run_paused running due later, run_paused running due later]

end Simulation

namespace Countdown

/-- The number of events that an event due at a time may still lead to, itself included, if each
brings forth at most one other, at least ten seconds later, and none after the deadline counts. -/
def weight (deadline due : Int) : Nat :=
  if deadline < due then 0 else 1 + ((deadline - due) / 10000).toNat

/-- The weight of all pending events. -/
def total (deadline : Int) (pending : List (Appointment (Event κ))) : Nat :=
  (pending.map fun a => weight deadline a.due).sum

theorem weight_lt {deadline due later : Int} (timely : due ≤ deadline)
    (after : due + 10000 ≤ later) : weight deadline later < weight deadline due := by
  simp only [weight]
  split <;> split <;> omega

theorem weight_pos {deadline due : Int} (timely : due ≤ deadline) : 0 < weight deadline due := by
  simp only [weight]
  split <;> omega

theorem total_insert (deadline : Int) (a : Appointment (Event κ))
    (pending : List (Appointment (Event κ))) :
    total deadline (Scheduler.insert a pending) = weight deadline a.due + total deadline pending := by
  induction pending with
  | nil => rfl
  | cons b rest ih =>
    simp only [Scheduler.insert]
    split
    · rfl
    · simp only [total, List.map_cons, List.sum_cons] at ih ⊢
      omega

theorem total_cons (deadline : Int) (a : Appointment (Event κ))
    (pending : List (Appointment (Event κ))) :
    total deadline (a :: pending) = weight deadline a.due + total deadline pending := rfl

end Countdown

end MoteTrial
