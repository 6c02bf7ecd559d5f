import MoteTrial.Firmware
import MoteTrial.LinkFault
import MoteTrial.Medium
import MoteTrial.Reception
import MoteTrial.Scheduler
import MoteTrial.TestLog

/-! # The simulated world

Everything that a simulation consists of. Code that a user brings (callbacks of events, listeners,
scripts) is named by values of a type `κ` and may keep memory of a type `μ`; what such code does is
a `Behaviour`, an operation on the world. Operations on the world keep what they did before a
failure.
-/

namespace MoteTrial

/-- What a host does when its deadline expires. -/
inductive Expiry (κ : Type) where
  | nothing
  /-- The action of a built-in script. -/
  | builtIn
  | code (c : κ)

/-- Events of the simulation. -/
inductive Event (κ : Type) where
  /-- A mote boots. -/
  | boot (mote : Int)
  /-- The timer of an application that was installed on a mote. -/
  | tick (mote : Int) (slot : Nat)
  /-- A mote logs a line of a recorded run. -/
  | line (mote : Int) (msg : String)
  /-- The deadline of a host, with the delay it was registered with. -/
  | expire (host : Nat) (after : Int) (action : Expiry κ)
  /-- A user's callback. -/
  | task (c : κ)

/-- Who hears the lines that motes log. -/
inductive Listener (κ : Type) where
  | host (index : Nat)
  | code (c : κ)

/-- A test script. A built-in script is `attached` once it has been set up on a host. -/
inductive Script (κ : Type) where
  | linkFault (timeout : Int) (attached : Bool) (state : LinkFault)
  | reception (timeout : Int) (attached : Bool) (trace : Option Nat) (state : Reception)
  | code (c : κ)

/-- The context of a running script. -/
structure Host (κ : Type) where
  script : Script κ
  log : TestLog
  /-- The line being handled, and the mote that logged it. -/
  msg : Option String := none
  mote : Option Int := none
  finished : Bool := false
  timedOut : Bool := false
  error : Option Failure := none
  deadlineSet : Bool := false

/-- The state of a simulation with its hosts and its observer. -/
structure World (κ μ : Type) where
  config : Config
  seed : Int
  scheduler : Scheduler (Event κ) := {}
  motes : Table Int Mote := ∅
  medium : Medium
  jitter : Random.Jitter
  listeners : List (Listener κ) := []
  hosts : Array (Host κ) := #[]
  /-- The trace that changes of links are recorded in. -/
  radioTrace : Option Nat := none
  observer : Observer
  memory : μ

/-- What ends an operation early: a failure, or running out of fuel in a loop. -/
inductive Interrupt where
  | failure (f : Failure)
  | exhausted
  deriving DecidableEq, Repr

/-- An operation on the world. What it did before an interrupt stays done. -/
abbrev SimM (κ μ : Type) := EStateM Interrupt (World κ μ)

/-- The occasions on which a user's code is called. -/
inductive Cue where
  /-- An event is due. -/
  | due
  /-- A mote has logged a line, and the code is a listener. -/
  | heard (mote : Int) (msg : String)
  /-- The code is a script and is to be set up. -/
  | setup (host : Nat)
  /-- The code is a script and is to handle a line; its answer tells whether the script is done. -/
  | line (host : Nat) (mote : Int) (msg : String)
  /-- The deadline of a host has expired. -/
  | expired (host : Nat)
  deriving DecidableEq, Repr

/-- What a user's code does. The answer counts where a script has handled a line. -/
abbrev Behaviour (κ μ : Type) := κ → Cue → SimM κ μ Bool

namespace World

variable {κ μ : Type}

/-- The simulated time. -/
def now (w : World κ μ) : Int := w.scheduler.now

/-- A fresh simulation whose chance comes from a seed. -/
def ofSeed (config : Config) (seed : Option Int) (observer : Observer) (memory : μ) :
    Except Failure (World κ μ) := do
  let seed := seed.getD config.seed
  let medium ← Medium.ofSeed seed
  return { config, seed, medium, observer, memory,
           jitter := .seeded (Random.Twister.ofSeed seed.natAbs) }

/-- A fresh simulation with given sources of chance. -/
def ofChance (config : Config) (draws : Random.Draws) (jitter : Random.Jitter)
    (observer : Observer) (memory : μ) : World κ μ :=
  { config, seed := config.seed, medium := { draws }, jitter, observer, memory }

end World

namespace SimM

variable {κ μ : Type}

/-- Fails; a failure whose message cannot be written turns into that failure. -/
def fail {α : Type} (f : Failure) : SimM κ μ α := throw (.failure f.settled)

/-- Carries on with a result or fails. -/
def ofExcept {α : Type} : Except Failure α → SimM κ μ α
  | .ok a => pure a
  | .error f => fail f

/-- Changes the observer. -/
def observe (f : Observer → Observer) : SimM κ μ Unit :=
  modify fun w => { w with observer := f w.observer }

/-- Writes text to the console. -/
def print (text : String) : SimM κ μ Unit := observe (·.print text)

/-- Carries out an operation on the observer. -/
def onObserver {α : Type} (m : ObserverM α) : SimM κ μ α := fun w =>
  match m w.observer with
  | .ok a observer => .ok a { w with observer }
  | .error f observer => .error (.failure f) { w with observer }

/-- Carries out an operation on the scheduler. -/
def onScheduler (f : Scheduler (Event κ) → Except Failure (Scheduler (Event κ))) :
    SimM κ μ Unit := do
  let scheduler ← ofExcept (f (← get).scheduler)
  modify fun w => { w with scheduler }

/-- Carries out an operation on the radio medium that may fail. -/
def onMedium {α : Type} (f : Config → Medium → Except Failure (α × Medium)) : SimM κ μ α := do
  let w ← get
  let (a, medium) ← ofExcept (f w.config w.medium)
  modify fun w => { w with medium }
  return a

/-- The simulated time. -/
def now : SimM κ μ Int := return (← get).now

end SimM

end MoteTrial
