import MoteTrial.Proofs.Execution

/-! # Users' code

What code that a user brings may do, one operation after the other: it drives the simulation, also from
inside a callback, works on hosts and their logs, changes what else there is at will, and raises, but it
catches no failure. A diary notes the passes it calls for, the bounds of the runs it asks for, and
which calls of scripts raise.
-/

namespace MoteTrial.Session

open SimM Simulation

/-- A call of a script that raised: the host it was made for, the failure, and the time. -/
structure Raised where
  host : Nat
  failure : Failure
  time : Int
  deriving DecidableEq, Repr

/-- What is noted of a session, beside the memory of the users' own code. -/
structure Diary (μ : Type) where
  /-- The hosts whose tests were passed, one entry for each call. -/
  passes : List Nat := []
  /-- The calls of scripts that raised. -/
  raised : List Raised := []
  /-- The bounds of the runs that were asked for. -/
  bounds : List Int := []
  own : μ

/-- Users' code. `consult` lets it depend on everything there is to see, `alter` changes anything but
the scheduler, the hosts and the diary. -/
inductive Program (κ μ : Type) where
  | answer (done : Bool)
  | raise (f : Failure)
  | schedule (delay : Int) (event : Event κ) (next : Program κ μ)
  | scheduleAt (time : Int) (event : Event κ) (next : Program κ μ)
  | stop (next : Program κ μ)
  | emit (mote : Int) (msg : String) (next : Program κ μ)
  | step (next : Bool → Program κ μ)
  | run (bound : Option Int) (next : Int → Program κ μ)
  | attach (script : Script κ) (log : TestLog) (next : Nat → Program κ μ)
  | start (host : Nat) (next : Program κ μ)
  | registerDeadline (host : Nat) (after : Int) (action : Expiry κ) (next : Program κ μ)
  | pass (host : Nat) (next : Program κ μ)
  | failTest (host : Nat) (reason : String) (next : Program κ μ)
  | write (host : Nat) (text : String) (mote : Int) (next : Program κ μ)
  | alter (change : World κ (Diary μ) → World κ (Diary μ)) (next : Program κ μ)
  | consult (next : World κ (Diary μ) → Program κ μ)

variable {κ μ : Type}

/-- Changes the diary. -/
def Diary.change (f : Diary μ → Diary μ) : SimM κ (Diary μ) Unit :=
  modify fun w => { w with memory := f w.memory }

/-- Notes that the test of a host is passed. -/
def Diary.notePass (h : Nat) : SimM κ (Diary μ) Unit :=
  change fun d => { d with passes := d.passes ++ [h] }

/-- Notes the bound of a run, if it has one. -/
def Diary.noteBound (bound : Option Int) : SimM κ (Diary μ) Unit :=
  change fun d => { d with bounds := d.bounds ++ bound.toList }

/-- A world changed at will, but for its scheduler, its hosts and its diary. -/
def altered (change : World κ (Diary μ) → World κ (Diary μ)) (w : World κ (Diary μ)) :
    World κ (Diary μ) :=
  { change w with
    scheduler := w.scheduler
    hosts := w.hosts
    memory := { w.memory with own := (change w).memory.own } }

/-- Carries out users' code, given the behaviour of the code that it sets off; `fuel` bounds the number
of events of a run. -/
def Program.exec (act : Behaviour κ (Diary μ)) (fuel : Nat) :
    Program κ μ → SimM κ (Diary μ) Bool
  | .answer done => pure done
  | .raise f => fail f
  | .schedule delay event next => do
    Simulation.schedule delay event
    next.exec act fuel
  | .scheduleAt time event next => do
    Simulation.scheduleAt time event
    next.exec act fuel
  | .stop next => do
    Simulation.stop
    next.exec act fuel
  | .emit mote msg next => do
    Simulation.emit (hear act) mote msg
    next.exec act fuel
  | .step next => do
    let fired ← Simulation.step (fire act)
    (next fired).exec act fuel
  | .run bound next => do
    Diary.noteBound bound
    let time ← Simulation.run (fire act) bound fuel
    (next time).exec act fuel
  | .attach script log next => do
    let h ← Host.attach script log
    (next h).exec act fuel
  | .start h next => do
    Host.start act h
    next.exec act fuel
  | .registerDeadline h after action next => do
    Host.registerDeadline h after action
    next.exec act fuel
  | .pass h next => do
    Diary.notePass h
    Host.pass h
    next.exec act fuel
  | .failTest h reason next => do
    Host.failTest h reason
    next.exec act fuel
  | .write h text mote next => do
    Host.write h text mote
    next.exec act fuel
  | .alter change next => do
    modify (altered change)
    next.exec act fuel
  | .consult next => do
    let w ← get
    (next w).exec act fuel

/-- The host that a call of a script is made for. -/
def host? : Cue → Option Nat
  | .setup h | .line h _ _ | .expired h => some h
  | .due | .heard _ _ => none

/-- The world in which it is noted that a call raised, if it was one of a script. -/
def noted (cue : Cue) (f : Failure) (w : World κ (Diary μ)) : World κ (Diary μ) :=
  match host? cue with
  | none => w
  | some h => { w with memory := { w.memory with raised := w.memory.raised ++ [⟨h, f, w.now⟩] } }

/-- Carries out the code of a call; if it raises, that is noted. -/
def watched (cue : Cue) (m : SimM κ (Diary μ) Bool) : SimM κ (Diary μ) Bool := fun w =>
  match m w with
  | .error (.failure f) w => .error (.failure f) (noted cue f w)
  | result => result

/-- The behaviour of users' code. Code may set off other code; `limit` bounds the depth of this, and
the number of events of each run that code asks for. -/
def behaviour (code : κ → Cue → Program κ μ) : Nat → Behaviour κ (Diary μ)
  | 0 => fun _ _ => throw .exhausted
  | limit + 1 => fun c cue => watched cue ((code c cue).exec (behaviour code limit) limit)

end MoteTrial.Session
