import MoteTrial.Simulation

/-! # Hosts of test scripts

A host attaches a script to a simulation: it hands every line to the script, fires the script's
deadline, and settles the verdict when the run ends. Whatever fails inside the script fails the
test and stops the simulation before it goes on to the caller. `fire` and `hear` close the circle:
they say what events and listeners do, given the behaviour of users' code.
-/

namespace MoteTrial

open SimM Simulation

namespace Host

variable {κ μ : Type}

/-- Attaches a script to the simulation and returns the number of its host. -/
def attach (script : Script κ) (log : TestLog) : SimM κ μ Nat := do
  let index := (← get).hosts.size
  modify fun w => { w with hosts := w.hosts.push { script, log } }
  addListener (.host index)
  return index

/-- Changes a host. -/
def change (h : Nat) (f : Host κ → Host κ) : SimM κ μ Unit :=
  modify fun w => { w with hosts := w.hosts.modify h f }

/-- Carries out an operation on the log of a host. -/
def onLog (h : Nat) (m : LogM Unit) : SimM κ μ Unit := fun w =>
  match w.hosts[h]? with
  | none => .ok () w
  | some host =>
    let put (log : TestLog) (observer : Observer) : World κ μ :=
      { w with hosts := w.hosts.modify h fun host => { host with log }, observer }
    match m (host.log, w.observer) with
    | .ok _ (log, observer) => .ok () (put log observer)
    | .error f (log, observer) => .error (.failure f) (put log observer)

/-- Passes the test of a host. -/
def pass (h : Nat) : SimM κ μ Unit := do onLog h (TestLog.pass (← now))

/-- Fails the test of a host. -/
def failTest (h : Nat) (reason : String) : SimM κ μ Unit := do
  onLog h (TestLog.fail (← now) reason)

/-- Writes a line to the log of a host. -/
def write (h : Nat) (text : String) (mote : Int) : SimM κ μ Unit := do
  onLog h (TestLog.write (← now) text mote)

/-- Registers the deadline of a script, at most once. -/
def registerDeadline (h : Nat) (after : Int) (action : Expiry κ) : SimM κ μ Unit := do
  match (← get).hosts[h]? with
  | none => return
  | some host =>
    if host.deadlineSet then fail .secondDeadline
    change h fun host => { host with deadlineSet := true }
    schedule after (.expire h after action)

/-- Ends a host and stops the simulation; an open verdict becomes a failure. -/
def finish (h : Nat) : SimM κ μ Unit := do
  change h fun host => { host with finished := true }
  match (← get).hosts[h]? with
  | none => return
  | some host =>
    if host.log.verdict.isNone then
      failTest h (if host.timedOut then "timeout" else "script ended without test_ok")
    stop

/-- The text of a line in the report of a script's failure. -/
def shownLine : Option String → String
  | none => "None"
  | some msg => Text.quoted msg

/-- Deals with a failure of a script: the test fails, the host is finished, the simulation stops. -/
def handleFailure (h : Nat) (f : Failure) : SimM κ μ Unit := do
  change h fun host => { host with error := some f }
  match (← get).hosts[h]? with
  | none => return
  | some host =>
    print ("❌ Script failed on " ++ shownLine host.msg ++ ": " ++ f.message ++ "\n")
    failTest h (f.name ++ ": " ++ f.message)
    change h fun host => { host with finished := true }
    stop

/-- Carries out a part of a script; its failure is dealt with and goes on to the caller. -/
def guarded (h : Nat) (m : SimM κ μ Bool) : SimM κ μ Bool := fun w =>
  match m w with
  | .error (.failure f) w =>
    (do handleFailure h f
        throw (Interrupt.failure f)) w
  | result => result

/-- Sets up a script: a built-in one takes hold of its host and registers its deadline. -/
def setup (act : Behaviour κ μ) (h : Nat) : SimM κ μ Bool := do
  match (← get).hosts[h]? with
  | none => return false
  | some host =>
    match host.script with
    | .linkFault timeout _ state =>
      change h fun host => { host with script := .linkFault timeout true state }
      registerDeadline h timeout .builtIn
      return false
    | .reception timeout _ trace state =>
      change h fun host => { host with script := .reception timeout true trace state }
      registerDeadline h timeout .builtIn
      return false
    | .code c => act c (.setup h)

/-- Starts the script of a host. -/
def start (act : Behaviour κ μ) (h : Nat) : SimM κ μ Unit := do
  let _ ← guarded h (setup act h)

/-- Changes the state of a link-fault script. -/
def changeLinkFault (h : Nat) (f : LinkFault → LinkFault) : SimM κ μ Unit :=
  change h fun host =>
    match host.script with
    | .linkFault timeout attached state => { host with script := .linkFault timeout attached (f state) }
    | _ => host

/-- The link-fault script handles a line: keywords degrade and restore the link between its end
points and end the test, started lines bind the end points, other lines are copied to the log. -/
def handleLinkFault (h : Nat) (attached : Bool) (state : LinkFault) (mote : Int) (msg : String) :
    SimM κ μ Bool := do
  let config := (← get).config
  match Message.classify msg with
  | .done =>
    if !attached then fail .noLog
    pass h
    return true
  | .deteriorate =>
    let (a, b) ← ofExcept (state.endpoints config.keywordDeteriorate)
    changeLink .deteriorate a b
    changeLinkFault h fun s =>
      { s with deteriorations := s.deteriorations + 1, degraded := true }
    return false
  | .improve =>
    let (a, b) ← ofExcept (state.endpoints config.keywordImprove)
    changeLink .improve a b
    changeLinkFault h fun s => { s with improvements := s.improvements + 1, degraded := false }
    return false
  | .started =>
    match Message.startedEndpoint? config msg with
    | none => return false
    | some endpoint =>
      changeLinkFault h (·.bind endpoint mote)
      return false
  | .other =>
    if !attached then fail .noLog
    write h (msg ++ "\n") mote
    changeLinkFault h fun s => { s with logged := s.logged + 1 }
    return false

/-- The reception script handles a line: it accounts for the counter of a reception line and logs
the counter, the losses so far and the counter before. -/
def handleReception (h : Nat) (timeout : Int) (attached : Bool) (trace : Option Nat)
    (state : Reception) (mote : Int) (msg : String) : SimM κ μ Bool := do
  match ← ofExcept (Message.parseReceived (← get).config msg) with
  | none => return false
  | some counter =>
    let next := state.record counter
    change h fun host => { host with script := .reception timeout attached trace next }
    if !attached then fail .noLog
    let shown ← ofExcept (writeInt counter)
    let lost ← ofExcept (writeInt next.lost)
    let last ← ofExcept (writeInt state.last)
    write h (shown ++ " " ++ lost ++ " " ++ last ++ "\n") mote
    match trace with
    | none => return false
    | some id =>
      let now ← now
      observe (·.recordReception id ⟨now, counter, next.lost, state.last, state.gap counter⟩)
      return false

/-- The script of a host handles a line; the answer tells whether it is done. -/
def handle (act : Behaviour κ μ) (h : Nat) (mote : Int) (msg : String) : SimM κ μ Bool := do
  match (← get).hosts[h]? with
  | none => return false
  | some host =>
    match host.script with
    | .linkFault _ attached state => handleLinkFault h attached state mote msg
    | .reception timeout attached trace state =>
      handleReception h timeout attached trace state mote msg
    | .code c => act c (.line h mote msg)

/-- A host hears a line: an unfinished host hands it to its script and ends if the script is
done. -/
def hearLine (act : Behaviour κ μ) (h : Nat) (mote : Int) (msg : String) : SimM κ μ Unit := do
  match (← get).hosts[h]? with
  | none => return
  | some host =>
    if host.finished then return
    change h fun host => { host with mote := some mote, msg := some msg }
    let done ← guarded h (handle act h mote msg)
    if done then
      match (← get).hosts[h]? with
      | none => return
      | some host => if !host.finished then finish h

/-- The action of a script at its deadline: the link-fault script fails the test, the reception
script passes it if no counter was lost. -/
def deadlineAction (act : Behaviour κ μ) (h : Nat) (action : Expiry κ) : SimM κ μ Bool := do
  match action with
  | .nothing => return false
  | .code c => act c (.expired h)
  | .builtIn =>
    let w ← get
    match w.hosts[h]? with
    | none => return false
    | some host =>
      match host.script with
      | .linkFault timeout _ _ =>
        let time ← ofExcept (writeInt timeout)
        failTest h ("no '" ++ w.config.keywordDone ++ "' within " ++ time ++ "ms")
        return false
      | .reception _ _ _ state =>
        if state.success then pass h
        return false
      | .code _ => return false

/-- The deadline of a host expires: an unfinished host has its script's action carried out and
ends. -/
def expire (act : Behaviour κ μ) (h : Nat) (after : Int) (action : Expiry κ) :
    SimM κ μ Unit := do
  match (← get).hosts[h]? with
  | none => return
  | some host =>
    if host.finished then return
    change h fun host => { host with timedOut := true }
    let time ← ofExcept (writeInt after)
    print ("[host] timeout after " ++ time ++ "ms\n")
    let _ ← guarded h (deadlineAction act h action)
    finish h

end Host

namespace Simulation

variable {κ μ : Type}

/-- What a listener does with a line. -/
def hear (act : Behaviour κ μ) : Hearing κ μ
  | .host h, mote, msg => Host.hearLine act h mote msg
  | .code c, mote, msg => do let _ ← act c (.heard mote msg)

/-- What an event does when it is due. -/
def fire (act : Behaviour κ μ) : Event κ → SimM κ μ Unit
  | .boot mote => boot (hear act) mote
  | .tick mote slot => tick (hear act) mote slot
  | .line mote msg => emit (hear act) mote msg
  | .expire h after action => Host.expire act h after action
  | .task c => do let _ ← act c .due

end Simulation

/-- Starts the script of a host and runs the simulation to the end of the test. -/
def Host.run {κ μ : Type} (act : Behaviour κ μ) (fuel : Nat) (h : Nat) : SimM κ μ Unit := do
  start act h
  let _ ← Simulation.run (fire act) none fuel
  match (← get).hosts[h]? with
  | none => return
  | some host =>
    if !host.finished then
      failTest h "simulation ended before the script finished"
      change h fun host => { host with finished := true }

end MoteTrial
