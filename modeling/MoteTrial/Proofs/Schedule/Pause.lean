import MoteTrial.Proofs.Schedule.Countdown

/-! # Pausing a run

A run to a bound sets the clock to the bound if events are left for later. Nothing that is carried out
ever sees the clock in between: the next event sets it to its own time, a further pause to its own bound.
`pause_invisible` draws from this that a run that is paused once and then goes on fires the same events
at the same times as a run in one piece, and leaves the same world.
-/

namespace MoteTrial

open SimM

variable {κ μ : Type}

/-- The world with another time on its clock. -/
def World.atTime (now : Int) (w : World κ μ) : World κ μ :=
  { w with scheduler := w.scheduler.setNow now }

namespace Simulation

section Pause

variable {fire : Event κ → SimM κ μ Unit} {w paused : World κ μ} {early late : Int}

/-- Neither the next event nor the world in which it is fired depends on the clock. -/
theorem step_setNow (fire : Event κ → SimM κ μ Unit) (running : w.scheduler.stopped = false)
    {due : Int} (next : w.scheduler.nextDue? = some due) (now : Int) :
    step fire (w.atTime now) = step fire w := by
  obtain ⟨a, first, _⟩ := Option.map_eq_some_iff.mp next
  obtain ⟨rest, shape⟩ := List.head?_eq_some_iff.mp first
  obtain ⟨s, taken⟩ := Scheduler.next?_of_pending shape
  have running' : (w.atTime now).scheduler.stopped = false := running
  have same : (w.atTime now).scheduler.next? = some (a, s) := taken
  cases fired : fire a.event { w with scheduler := s } with
  | ok _ w' => exact (step_ok running' same fired).trans (step_ok running taken fired).symm
  | error i w' => exact (step_error running' same fired).trans (step_error running taken fired).symm

/-- A run with events ahead does not depend on the clock, given fuel for one of them. -/
theorem run_setNow (running : w.scheduler.stopped = false) {due : Int}
    (next : w.scheduler.nextDue? = some due) (now : Int) (fuel : Nat) :
    run fire (some late) (fuel + 1) (w.atTime now) = run fire (some late) (fuel + 1) w := by
  have running' : (w.atTime now).scheduler.stopped = false := running
  have next' : (w.atTime now).scheduler.nextDue? = some due := next
  by_cases later : late < due
  · exact (run_paused running' next' later).trans (run_paused running next later).symm
  · have soon : ∀ limit ∈ some late, due ≤ limit := by
      rintro limit ⟨⟩
      exact Int.not_lt.mp later
    refine (run_fires running' next' soon).trans ?_
    refine Eq.trans ?_ (run_fires running next soon).symm
    exact bind_same (step_setNow fire running next now) _

/-- A run that has come to its bound and then goes on to a later one ends like a run to the later
bound, be it with a failure. -/
theorem run_resumed (order : early ≤ late) {fuel more : Nat} {time : Int}
    (first : run fire (some early) fuel w = .ok time paused)
    (enough : ∀ w', run fire (some late) more paused ≠ .error .exhausted w') :
    run fire (some late) (fuel + more) w = run fire (some late) more paused := by
  have whole (fuel : Nat) : run fire (some late) (fuel + more) paused =
      run fire (some late) more paused := by
    rw [Nat.add_comm]
    exact run_more fuel more paused enough
  induction fuel generalizing w with
  | zero => cases first
  | succ fuel ih =>
    cases running : w.scheduler.stopped with
    | true =>
      rw [run_stopped running] at first
      cases first
      exact whole (fuel + 1)
    | false =>
      cases next : w.scheduler.nextDue? with
      | none =>
        rw [run_idle next] at first
        cases first
        exact whole (fuel + 1)
      | some due =>
        have more_fuel : fuel + 1 + more = fuel + more + 1 := Nat.add_right_comm fuel 1 more
        by_cases later : early < due
        · -- the first part ends here, and only the clock has been set
          rw [run_paused running next later] at first
          cases first
          rw [← whole (fuel + 1), more_fuel]
          exact (run_setNow running next early (fuel + more)).symm
        · have soon : ∀ limit ∈ some early, due ≤ limit := by
            rintro limit ⟨⟩
            exact Int.not_lt.mp later
          have soon' : ∀ limit ∈ some late, due ≤ limit := by
            rintro limit ⟨⟩
            exact Int.le_trans (Int.not_lt.mp later) order
          rw [run_fires running next soon] at first
          rw [more_fuel, run_fires running next soon']
          cases stepped : step fire w with
          | error i w' =>
            rw [bind_error stepped] at first
            cases first
          | ok fired w' =>
            rw [bind_ok stepped] at first
            rw [bind_ok stepped]
            exact ih first

end Pause

end Simulation

namespace Pause

open Simulation

/-- The memory of users' code with a record of the events that were fired, each with the time at which
it was. -/
structure Record (κ μ : Type) where
  fired : List (Int × Event κ) := []
  own : μ

/-- Fires events and keeps a record of it. -/
def recorded (fire : Event κ → SimM κ (Record κ μ) Unit) (event : Event κ) :
    SimM κ (Record κ μ) Unit := do
  modify fun w => { w with memory := { w.memory with fired := w.memory.fired ++ [(w.now, event)] } }
  fire event

/-- Whenever a run to a bound, followed by one to a later bound, completes, so does a run to the later
bound alone. It returns the same time and leaves the same world: the record of what was fired and when,
the clock, the pending events, whether the simulation is stopped, the number of events processed, and
whatever the events have done. -/
theorem pause_invisible (act : Behaviour κ (Record κ μ)) {w paused ended : World κ (Record κ μ)}
    {early late : Int} (order : early ≤ late) {fuel more : Nat} {time time' : Int}
    (first : run (recorded (fire act)) (some early) fuel w = .ok time paused)
    (second : run (recorded (fire act)) (some late) more paused = .ok time' ended) :
    ∃ enough, ∀ fuel, enough ≤ fuel →
      run (recorded (fire act)) (some late) fuel w = .ok time' ended := by
  have lasting : ∀ w', run (recorded (fire act)) (some late) more paused ≠ .error .exhausted w' := by
    intro w' exhausted
    cases second.symm.trans exhausted
  have direct : run (recorded (fire act)) (some late) (fuel + more) w = .ok time' ended :=
    (run_resumed order first lasting).trans second
  refine ⟨fuel + more, ?_⟩
  intro larger enough
  obtain ⟨extra, rfl⟩ := Nat.exists_eq_add_of_le enough
  rw [run_more extra (fuel + more) w, direct]
  intro w' exhausted
  cases direct.symm.trans exhausted

/-- A callback that schedules another one five milliseconds later, and one that does nothing. -/
def chain : Behaviour Bool (Record Bool Unit) := fun again _ => do
  if again then schedule 5 (.task false)
  return false

/-- Callbacks at 10 and 20. -/
def twoAhead : World Bool (Record Bool Unit) :=
  ((World.plain { own := () }).register 10 (.task true)).register 20 (.task false)

/-- The run is paused at 12, after the first callback, and goes on to 18. -/
def pausedAhead : World Bool (Record Bool Unit) :=
  final (run (recorded (fire chain)) (some 12) 2) twoAhead

/-- The run has come to 18. -/
def endedAhead : World Bool (Record Bool Unit) :=
  final (run (recorded (fire chain)) (some 18) 2) pausedAhead

theorem pause_invisible_chain :
    (12 : Int) ≤ 18 ∧
    run (recorded (fire chain)) (some 12) 2 twoAhead = .ok 12 pausedAhead ∧
    run (recorded (fire chain)) (some 18) 2 pausedAhead = .ok 18 endedAhead ∧
    endedAhead.memory.fired.map Prod.fst = [10, 15] ∧
    ∃ enough, ∀ fuel, enough ≤ fuel →
      run (recorded (fire chain)) (some 18) fuel twoAhead = .ok 18 endedAhead := by
  have first : run (recorded (fire chain)) (some 12) 2 twoAhead = .ok 12 pausedAhead := rfl
  have second : run (recorded (fire chain)) (some 18) 2 pausedAhead = .ok 18 endedAhead := rfl
  exact ⟨by decide, first, second, by decide +kernel,
    pause_invisible chain (by decide) first second⟩

end Pause

end MoteTrial
