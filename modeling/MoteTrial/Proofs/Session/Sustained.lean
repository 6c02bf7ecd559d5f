import MoteTrial.Proofs.Host.TestRun
import MoteTrial.Proofs.Session.Operations

/-! # Properties that tests sustain

A property of a session is sustained if the parts of its tests keep it, and users' code. Then all that
goes on in the session keeps it: lines that are heard, deadlines that expire, events, and whole runs. A
part that fails may leave a weaker property behind, which has to bear the report of the failure.
-/

namespace MoteTrial.Session

open SimM Simulation

variable {κ μ : Type}

/-- The parts of tests, and users' code, keep a property, whatever lines are said. -/
structure Sustains (act : Behaviour κ μ) (I : World κ μ → Prop)
    (E : Interrupt → World κ μ → Prop) : Prop where
  paced : Paced I E fun _ _ => True
  moves : Moves I E
  closes : ∀ h, Closes I E h
  /-- What a failure leaves behind is kept while it is reported. -/
  reports : ∀ f h, Closes (E (.failure f)) E h
  setup : ∀ h, Keeps I E (Host.setup act h)
  handle : ∀ h mote msg, Keeps I E (Host.handle act h mote msg)
  pass : ∀ h, Keeps I E (Host.pass h : SimM κ μ Unit)
  write : ∀ h text mote, Keeps I E (Host.write h text mote : SimM κ μ Unit)
  calls : ∀ c cue, Keeps I E (act c cue)

namespace Sustains

section Runs

variable {act : Behaviour κ μ} {I : World κ μ → Prop} {E : Interrupt → World κ μ → Prop} {h : Nat}

theorem guarded (sustains : Sustains act I E) {m : SimM κ μ Bool} {w : World κ μ}
    (part : Kept I E (m w)) : Kept I E (Host.guarded h m w) :=
  part.guarded (fun _ ends => ends) fun f => (sustains.reports f h).handleFailure f

theorem registerDeadline (sustains : Sustains act I E) (h : Nat) (after : Int) (action : Expiry κ) :
    Keeps I E (Host.registerDeadline h after action : SimM κ μ Unit) :=
  (sustains.closes h).bears.registerDeadline sustains.paced.failed (sustains.paced.schedule after _ trivial)

theorem start (sustains : Sustains act I E) (h : Nat) : Keeps I E (Host.start act h) :=
  Keeps.bind (fun w kept => sustains.guarded (sustains.setup h w kept)) fun _ => Keeps.pure _

theorem hearLine (sustains : Sustains act I E) (h : Nat) (mote : Int) (msg : String) :
    Keeps I E (Host.hearLine act h mote msg) :=
  (sustains.closes h).bears.hearLine fun w kept => sustains.guarded (sustains.handle h mote msg w kept)

theorem deadlineAction (sustains : Sustains act I E) (h : Nat) (action : Expiry κ) :
    Keeps I E (Host.deadlineAction act h action) :=
  Keeps.deadlineAction sustains.paced.failed (fun c _ => sustains.calls c _)
    (sustains.closes h).failTest (sustains.pass h)

theorem expire (sustains : Sustains act I E) (h : Nat) (after : Int) (action : Expiry κ) :
    Keeps I E (Host.expire act h after action) :=
  (sustains.closes h).bears.expire sustains.paced.failed
    (fun w kept => sustains.guarded (sustains.deadlineAction h action w kept)) after

theorem hears (sustains : Sustains act I E) : Hears (Simulation.hear act) I E fun _ _ => True := by
  intro l mote msg _
  cases l with
  | host h => exact sustains.hearLine h mote msg
  | code c => exact (sustains.calls c _).bind fun _ => Keeps.pure _

theorem fire (sustains : Sustains act I E) (event : Event κ) :
    Keeps I E (Simulation.fire act event) :=
  sustains.paced.fire sustains.moves sustains.hears sustains.expire (fun c => sustains.calls c _) event
    (said_any event)

/-- A run keeps the property if it may be paused with it. -/
theorem run (sustains : Sustains act I E) {bound : Option Int}
    (pauses : ∀ limit ∈ bound, ∀ {w : World κ μ}, I w →
      I { w with scheduler := w.scheduler.setNow limit }) (fuel : Nat) :
    Keeps I E (Simulation.run (Simulation.fire act) bound fuel) :=
  sustains.paced.run (fun event _ => sustains.fire event)
    (fun limit bounded _ _ kept _ _ => pauses limit bounded kept) fuel

/-- The test of a host whose script starts well is a run and its conclusion. -/
theorem hostRun (sustains : Sustains act I E) {w : World κ μ}
    (started : Kept I E (Host.start act h w)) (fuel : Nat) : Kept I E (Host.run act fuel h w) := by
  have runs : Keeps I E (Simulation.run (Simulation.fire act) none fuel) :=
    sustains.run (fun _ bounded => by cases bounded) fuel
  unfold Host.run
  refine started.bind fun _ => runs.bind fun _ => Keeps.reads fun w => ?_
  split
  · exact Keeps.pure _
  · split
    · exact ((sustains.closes h).failTest _).bind fun _ =>
        (sustains.closes h).change fun _ => ⟨rfl, rfl⟩
    · exact Keeps.pure _

end Runs

section Code

variable {act : Behaviour κ (Diary μ)} {I : World κ (Diary μ) → Prop}
  {E : Interrupt → World κ (Diary μ) → Prop} {fuel : Nat} {attaches : Script κ → Prop}
  {alters : (World κ (Diary μ) → World κ (Diary μ)) → Prop}

/-- The operations of users' code keep the property if runs, new hosts, notes and changes do. -/
theorem operates (sustains : Sustains act I E)
    (runs : ∀ bound, Keeps I E (do
      Diary.noteBound bound
      Simulation.run (Simulation.fire act) bound fuel))
    (attached : ∀ script log, attaches script → Keeps I E (Host.attach script log))
    (noted : ∀ h, Keeps I E (Diary.notePass h))
    (altered : ∀ change, alters change → Keeps I E (modify (Session.altered change))) :
    Operates act fuel I E (fun _ _ => True) attaches alters where
  raises := sustains.paced.fails
  schedules := sustains.paced.schedule
  schedulesAt := sustains.paced.scheduleAt
  stops := (sustains.closes 0).stop
  emits _ _ := sustains.hears.emit
  steps := sustains.paced.step fun event _ => sustains.fire event
  runs := runs
  attaches := attached
  starts := sustains.start
  registers := sustains.registerDeadline
  passes h := (noted h).bind fun _ => sustains.pass h
  failsTest h := (sustains.closes h).failTest
  writes := sustains.write
  alters := altered

end Code

end Sustains

section Test

variable {act : Behaviour κ μ} {I : World κ μ → Prop} {E : Interrupt → World κ μ → Prop}
  {w : World κ μ} {fuel : Nat} {script : Script κ} {trace : Option Nat} {echo : Bool}

/-- The run of a script keeps what the test of its host keeps, if that bears the end of the trace. -/
theorem Kept.runScript
    (tested : Kept I E (Host.run act fuel w.hosts.size (joined script trace echo w)))
    (closes : Keeps I E (Scenario.closeTrace w.hosts.size trace : SimM κ μ Unit))
    (breaks : ∀ i, Keeps (E i) E (Scenario.closeTrace w.hosts.size trace : SimM κ μ Unit)) :
    Kept I E (Scenario.runScript act fuel script trace echo w) := by
  obtain ⟨returns, raises⟩ := runScript_joined act fuel script trace echo w
  cases ran : Host.run act fuel w.hosts.size (joined script trace echo w) with
  | ok _ w' =>
    rw [ran] at tested
    rw [returns w' ran]
    exact (closes w' tested).bind fun _ _ kept => kept
  | error i w' =>
    rw [ran] at tested
    rw [raises i w' ran]
    exact Kept.bind (breaks i w' tested) fun _ _ kept => kept

end Test

end MoteTrial.Session
