import MoteTrial.Proofs.Host.TestRun
import MoteTrial.Proofs.Replay.Order

/-! # Tests of replayed runs

A fresh simulation in which recorded lines are scheduled is tested by a built-in script: the test ends
as the script makes of the lines in the order of the replay, `replay_ends`.
-/

namespace MoteTrial

open SimM Simulation Scenario

/-- A test of the lines of a log, replayed to a simulation. -/
def Replay.test {κ μ : Type} (act : Behaviour κ μ) (name : ScriptName) (timeout : Int) (echo : Bool)
    (fuel : Nat) (records : List LogFile.Record) : SimM κ μ Nat := do
  schedule records
  runScript act fuel (name.script Config.standard (some timeout)) none echo

section Test

variable {κ μ : Type} {act : Behaviour κ μ} {name : ScriptName} {timeout : Int} {echo : Bool}
  {w : World κ μ} {fuel : Nat}

/-- A test of recorded lines ends as the script makes of those that are replayed up to the deadline, if
the time at which it ends can be written. -/
theorem replay_ends (act : Behaviour κ μ) (name : ScriptName) (echo : Bool) (fresh : w.Fresh)
    (nonneg : 0 ≤ timeout) (records : List LogFile.Record)
    (writable : Numeral.isWritable
      ((name.bench timeout echo : Bench κ).outcome timeout (Replay.upTo timeout records)).now = true)
    (enough : records.length + 2 ≤ fuel) :
    ((name.bench timeout echo).outcome timeout (Replay.upTo timeout records)).IsEnd
      (Replay.test act name timeout echo fuel records w) := by
  obtain ⟨motes, scheduler, kept, clock, running⟩ := w.replaying_keeps records
  have said := World.pending_replaying records fresh.idle
  let loaded : World κ μ := w.replaying records
  let deadline : Appointment (Event κ) :=
    ⟨timeout, loaded.scheduler.issued, .expire 0 timeout .builtIn⟩
  have now : loaded.now = 0 := by
    simp only [loaded, kept]
    rw [World.now, clock, World.now, fresh.idle]
  have shape : (loaded.testing name timeout echo).scheduler.pending =
      loaded.scheduler.pending.filter (fun a => a.due ≤ timeout) ++
        deadline :: loaded.scheduler.pending.filter fun a => timeout < a.due := by
    change Scheduler.insert ⟨loaded.now + timeout, loaded.scheduler.issued, _⟩
      loaded.scheduler.pending = _
    rw [now, Int.zero_add]
    exact Scheduler.insert_eq loaded.scheduler.pairwise_due
  have lines : (loaded.scheduler.pending.filter fun a => a.due ≤ timeout).map
      (fun a => (a.due, a.event)) = (Replay.upTo timeout records).map LogFile.Record.said := by
    have early := congrArg (List.filter fun e => e.1 ≤ timeout) said
    rw [List.filter_map, List.filter_map] at early
    exact early
  have playing : Playing timeout (name.bench timeout echo) (loaded.testing name timeout echo) := by
    apply Playing.start
    · simp only [loaded, kept, fresh.standard]
    · simp only [loaded, kept, fresh.silent]
    · simp only [loaded, kept, fresh.unheard]
    · simp only [loaded, kept, running, fresh.idle]
    · simp only [loaded, kept, fresh.unchanged]
  have unhosted : loaded.hosts = #[] := by simp only [loaded, kept, fresh.unhosted]
  have fewer := Replay.length_upTo_le timeout records
  rw [Replay.test, bind_ok (schedule_records_apply records w)]
  exact Bench.IsEnd.runScript nonneg unhosted (Bench.finished_outcome _ _ _)
    (playing.ends act writable shape lines (Replay.pairwise_upTo timeout records)
      Replay.upTo_within rfl rfl (by omega))

/-- A test of recorded lines in the order of their times, none of them after the deadline, ends as the
script makes of them. -/
theorem replayed_test_ends (act : Behaviour κ μ) (name : ScriptName) (echo : Bool)
    (fresh : w.Fresh) (nonneg : 0 ≤ timeout) (writable : Numeral.isWritable timeout = true)
    {records : List LogFile.Record} (sorted : records.Pairwise fun r s => r.time ≤ s.time)
    (within : ∀ r ∈ records, 0 ≤ r.time ∧ r.time ≤ timeout) (enough : records.length + 2 ≤ fuel) :
    ((name.bench timeout echo).outcome timeout records).IsEnd
      ((do Replay.schedule records
           runScript act fuel (name.script Config.standard (some timeout)) none echo : SimM κ μ Nat)
        w) := by
  have ended := replay_ends act name echo fresh nonneg records ?_ enough
  · rw [Replay.upTo_eq_self sorted within] at ended
    exact ended
  · rw [Replay.upTo_eq_self sorted within]
    refine isWritable_of_le ?_ ?_ writable
    · exact Bench.le_outcome_now (Int.le_refl 0) (fun r member => (within r member).1) nonneg
    · exact Bench.outcome_now_le nonneg fun r member => (within r member).2

end Test

end MoteTrial
