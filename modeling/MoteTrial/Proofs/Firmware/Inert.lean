import MoteTrial.Proofs.Firmware.Journal
import MoteTrial.Proofs.Session.Operations

/-! # What hosts leave alone

Hosts, listeners and scripts do nothing to motes and nothing to notes, and they set no timer of a client.
They uphold every property that is `Inert`, whether they succeed or are interrupted.
-/

namespace MoteTrial.Protocol

open SimM Simulation

variable {κ μ : Type}

/-- An operation that keeps a property, also if it is interrupted. -/
abbrev Upholds {α : Type} (I : World κ μ → Prop) (m : SimM κ μ α) : Prop :=
  Session.Keeps I (fun _ => I) m

/-- A property of parameters, motes, pending events and memory that bears new events, unless they are
timers. -/
structure Inert (I : World κ μ → Prop) : Prop where
  same : ∀ {w w' : World κ μ}, I w → w'.config = w.config → w'.motes = w.motes →
    w'.scheduler.pending = w.scheduler.pending → w'.memory = w.memory → I w'
  registered : ∀ {w : World κ μ}, I w → ∀ (due : Int) {event : Event κ}, isTimer event = false →
    I (w.register due event)

namespace Inert

variable {I : World κ μ → Prop} {act : Behaviour κ μ} {h : Nat}

theorem failed (_ : Inert I) {w : World κ μ} (kept : I w) (_ : Failure) : I w := kept

theorem changes (inert : Inert I) {g : World κ μ → World κ μ} (config : ∀ w, (g w).config = w.config)
    (motes : ∀ w, (g w).motes = w.motes)
    (pending : ∀ w, (g w).scheduler.pending = w.scheduler.pending)
    (memory : ∀ w, (g w).memory = w.memory) : Upholds I (modify g : SimM κ μ Unit) :=
  Session.Keeps.modify fun {w} kept => inert.same kept (config w) (motes w) (pending w) (memory w)

theorem observe (inert : Inert I) (f : Observer → Observer) :
    Upholds I (SimM.observe f : SimM κ μ Unit) :=
  inert.changes (fun _ => rfl) (fun _ => rfl) (fun _ => rfl) fun _ => rfl

theorem host (inert : Inert I) (h : Nat) (f : Host κ → Host κ) :
    Upholds I (Host.change h f : SimM κ μ Unit) :=
  inert.changes (fun _ => rfl) (fun _ => rfl) (fun _ => rfl) fun _ => rfl

theorem stop (inert : Inert I) : Upholds I (Simulation.stop : SimM κ μ Unit) :=
  inert.changes (fun _ => rfl) (fun _ => rfl) (fun _ => rfl) fun _ => rfl

theorem onMedium {α : Type} (inert : Inert I) (f : Config → Medium → Except Failure (α × Medium)) :
    Upholds I (SimM.onMedium f : SimM κ μ α) := by
  refine Session.keeps_onMedium inert.failed (fun medium => ?_) f
  exact inert.changes (fun _ => rfl) (fun _ => rfl) (fun _ => rfl) fun _ => rfl

theorem steady (inert : Inert I) : Session.Steady I (fun _ => I) fun _ => True where
  seen kept _ := inert.same kept rfl rfl rfl rfl
  changed _ kept _ _ := inert.same kept rfl rfl rfl rfl
  stopped kept := inert.same kept rfl rfl rfl rfl
  unwritable kept _ := kept

theorem schedule (inert : Inert I) (delay : Int) {event : Event κ} (plain : isTimer event = false) :
    Upholds I (Simulation.schedule delay event) :=
  Session.Keeps.schedule inert.failed fun kept _ => inert.registered kept _ plain

theorem scheduleAt (inert : Inert I) (time : Int) {event : Event κ} (plain : isTimer event = false) :
    Upholds I (Simulation.scheduleAt time event) := by
  intro w kept
  rw [scheduleAt_apply]
  exact inert.registered kept _ plain

theorem bears (inert : Inert I) (h : Nat) : Session.Bears I (fun _ => I) h where
  prints := inert.steady.print
  change _ := inert.host h _
  finish := inert.steady.finish trivial

theorem guarded (inert : Inert I) {m : SimM κ μ Bool} (part : Upholds I m) :
    Upholds I (Host.guarded h m) :=
  part.guarded (fun _ ends => ends) fun f => inert.steady.handleFailure trivial f

theorem registerDeadline (inert : Inert I) (h : Nat) (after : Int) (action : Expiry κ) :
    Upholds I (Host.registerDeadline h after action : SimM κ μ Unit) :=
  (inert.bears h).registerDeadline inert.failed (inert.schedule after rfl)

section Code

variable (inert : Inert I) (calls : ∀ c cue, Upholds I (act c cue))

include inert calls

theorem start (h : Nat) : Upholds I (Host.start act h) := by
  unfold Host.start
  refine (inert.guarded ?_).bind fun _ => Session.Keeps.pure _
  have registers (timeout : Int) : Upholds I (do
      Host.registerDeadline h timeout .builtIn
      return false : SimM κ μ Bool) :=
    (inert.registerDeadline h timeout .builtIn).bind fun _ => Session.Keeps.pure _
  unfold Host.setup
  refine Session.Keeps.reads fun w => ?_
  split
  · exact Session.Keeps.pure _
  · split
    · exact (inert.host h _).bind fun _ => registers _
    · exact (inert.host h _).bind fun _ => registers _
    · exact calls _ _

theorem handle (h : Nat) (mote : Int) (msg : String) : Upholds I (Host.handle act h mote msg) := by
  unfold Host.handle
  refine Session.Keeps.reads fun w => ?_
  split
  · exact Session.Keeps.pure _
  · split
    · refine Session.Keeps.handleLinkFault inert.failed ?_ (inert.steady.write trivial)
        (fun _ => inert.host h _) fun _ => inert.steady.pass trivial
      intro kind a b
      exact Session.Keeps.changeLink (fun _ => inert.onMedium _) inert.failed
        (fun _ => inert.observe _) fun _ _ => inert.observe _
    · exact Session.Keeps.handleReception inert.failed (fun _ => inert.host h _)
        (inert.steady.write trivial) fun _ _ _ => inert.observe _
    · exact calls _ _

theorem deadlineAction (h : Nat) (action : Expiry κ) : Upholds I (Host.deadlineAction act h action) :=
  Session.Keeps.deadlineAction inert.failed (fun c _ => calls c _) (inert.steady.failTest trivial)
    (inert.steady.pass trivial)

theorem expire (h : Nat) (after : Int) (action : Expiry κ) :
    Upholds I (Host.expire act h after action) :=
  (inert.bears h).expire inert.failed (inert.guarded (inert.deadlineAction calls h action)) after

theorem hears : Session.Hears (hear act) I (fun _ => I) fun _ _ => True := by
  intro l mote msg _
  cases l with
  | host h => exact (inert.bears h).hearLine (inert.guarded (inert.handle calls h mote msg))
  | code c => exact (calls c _).bind fun _ => Session.Keeps.pure _

theorem emit (mote : Int) (msg : String) : Upholds I (Simulation.emit (hear act) mote msg) :=
  (inert.hears calls).emit trivial

end Code

theorem transmit (inert : Inert I) (source target : Int) :
    Upholds I (Simulation.transmit source target : SimM κ μ Bool) :=
  fun _ kept => inert.same kept rfl rfl rfl rfl

theorem transmitVia (inert : Inert I) (source relay target : Int) :
    Upholds I (Simulation.transmitVia source relay target : SimM κ μ Bool) :=
  Session.Keeps.transmitVia inert.transmit source relay target

theorem nextInterval (inert : Inert I) : Upholds I (Simulation.nextInterval : SimM κ μ Int) := by
  intro w kept
  rcases Session.nextInterval_cases w with ⟨f, refused⟩ | ⟨delay, jitter, drawn⟩
  · rw [refused]
    exact kept
  · rw [drawn]
    exact inert.same kept rfl rfl rfl rfl

end Inert

end MoteTrial.Protocol
