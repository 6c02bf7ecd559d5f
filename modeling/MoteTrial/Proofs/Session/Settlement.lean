import MoteTrial.Proofs.Session.HostTest

/-! # How a test is settled

A test with a script of the users' own either returns, and then its host is finished and its verdict is
that it has passed just if a pass was called for; or a call of its script raises, and then the run
raises the same failure and the host has dealt with it: `verdict_settled`. The script may do as it
likes, also set off itself by the lines that it emits, and so may all else in the simulation.
-/

namespace MoteTrial.Session

open SimM Simulation

variable {κ μ : Type}

section Script

variable {act : Behaviour κ (Diary μ)} {h : Nat}

/-- Users' code of which the test of a host is safe: it keeps the test going, and if it raises, the
calls of the script of that host leave it to the host to deal with the failure. -/
structure Safe (h : Nat) (act : Behaviour κ (Diary μ)) : Prop where
  others : Stable.Calls (Open h) (Ends Dealt h) (fun i => i ≠ h) act
  own : ∀ c cue, host? cue = some h → Keeps (Open h) (Raises h) (act c cue)

theorem bears_own (h : Nat) : Bears (κ := κ) (Open (μ := μ) h) (Ends Dealt h) h where
  prints := (steady_open h).print
  change same := own_change same
  finish := own_finish

theorem own_hearLine (safe : Safe h act) (mote : Int) (msg : String) :
    Keeps (Open h) (Ends Dealt h) (Host.hearLine act h mote msg) := by
  have handles : Keeps (Open h) (Raises h) (Host.handle act h mote msg) := by
    rintro w ⟨host, settling⟩
    obtain ⟨c, script⟩ := settling.script
    unfold Host.handle
    rw [get_bind_apply]
    simp only [settling.present, script]
    exact safe.own c (.line h mote msg) rfl w ⟨host, settling⟩
  exact (bears_own h).hearLine (own_guarded handles)

theorem own_expire (safe : Safe h act) (after : Int) (action : Expiry κ) :
    Keeps (Open h) (Ends Dealt h) (Host.expire act h after action) := by
  have acts : Keeps (Open h) (Raises h) (Host.deadlineAction act h action) := by
    cases action with
    | nothing => exact Keeps.pure _
    | code c => exact safe.own c (.expired h) rfl
    | builtIn =>
      rintro w ⟨host, settling⟩
      obtain ⟨c, script⟩ := settling.script
      unfold Host.deadlineAction
      simp only
      rw [get_bind_apply]
      simp only [settling.present, script]
      exact ⟨host, settling⟩
  exact (bears_own h).expire (stable_open h).toPaced.failed (own_guarded acts) after

theorem keeps_each {α : Type} {m : Nat → SimM κ (Diary μ) α} (own : Keeps (Open h) (Ends Dealt h) (m h))
    (others : ∀ {i}, i ≠ h → Keeps (Open h) (Ends Dealt h) (m i)) (i : Nat) :
    Keeps (Open h) (Ends Dealt h) (m i) := by
  by_cases same : i = h
  · subst same
    exact own
  · exact others same

theorem Safe.hearLine (safe : Safe h act) (i : Nat) (mote : Int) (msg : String) :
    Keeps (Open h) (Ends Dealt h) (Host.hearLine act i mote msg) :=
  keeps_each (own_hearLine safe mote msg)
    (fun other => (stable_open h).hearLine safe.others other trivial) i

theorem Safe.fire (safe : Safe h act) (event : Event κ) :
    Keeps (Open h) (Ends Dealt h) (Simulation.fire act event) := by
  refine (stable_open h).fire safe.others (fun i mote msg _ => safe.hearLine i mote msg)
    (fun i after action => ?_) event (said_any event)
  exact keeps_each (own_expire safe after action)
    (fun other => (stable_open h).expire safe.others other after action) i

/-- No test is the worse for a run that pauses. -/
theorem Safe.run (safe : Safe h act) (bound : Option Int) (fuel : Nat) :
    Keeps (Open h) (Ends Dealt h) (Simulation.run (Simulation.fire act) bound fuel) := by
  apply (stable_open h).run fun event _ => safe.fire event
  rintro limit - w due ⟨host, settling⟩ - -
  exact ⟨host, settling.of_same rfl rfl rfl⟩

end Script

section Verdict

variable {h : Nat} {c : κ} {log : TestLog} {w : World κ (Diary μ)}

/-- The test of a host is settled. If the run has returned, no call of the script has raised; the host
is finished, and its verdict is that it has passed just if a pass was called for. If a call of the
script has raised, at a time that can be written, then the run has failed with the same failure and the
simulation is stopped; the host holds the failure, is finished, and has that verdict. -/
def Settled (h : Nat) : EStateM.Result Interrupt (World κ (Diary μ)) Unit → Prop
  | .ok _ w =>
    (∀ r ∈ w.memory.raised, r.host ≠ h) ∧
      ∃ host, w.hosts[h]? = some host ∧ host.finished = true ∧
        host.log.verdict = some (w.memory.verdict h)
  | .error (.failure f) w =>
    ∀ r ∈ w.memory.raised, r.host = h → Numeral.isWritable r.time = true →
      r.failure = f ∧ w.scheduler.stopped = true ∧
      ∃ host, w.hosts[h]? = some host ∧ host.error = some f ∧ host.finished = true ∧
        host.log.verdict = some (w.memory.verdict h)
  | .error .exhausted w => ∀ r ∈ w.memory.raised, r.host ≠ h

end Verdict

end MoteTrial.Session
