import MoteTrial.Proofs.Session.Memory

/-! # A journal of what clients do

The firmware of a client logs lines, tries to deliver counters and hands them to its server. To say in
which order it does, it is given operations that note each of these calls in a diary, and whether it
returned; the diary counts the boots of motes too. It stands beside what users' code remembers, and
nothing looks at it: a run in which calls are noted, with the diary forgotten, is the run in which they
are not (`forget_fireNoting`, `forget_noting`).

Users' code may boot motes, install applications, hand out datagrams, schedule events and change whatever
else there is, but it does not drive the simulation, and it leaves the timers of clients to the firmware.
-/

namespace MoteTrial.Protocol

open SimM Simulation

/-- What the firmware of a client calls. What is called may fail; then it does not return. -/
inductive Call where
  /-- It logs a line. -/
  | log (msg : String) (returned : Bool)
  /-- It tries to deliver a counter. -/
  | attempt (counter : Nat)
  /-- It has a mote receive a datagram, directly or by way of a relay. -/
  | hand (target : Int) (payload : Payload) (returned : Bool)
  deriving DecidableEq, Repr

/-- What is noted of clients and motes, beside what users' code remembers. -/
structure Diary (μ : Type) where
  /-- The calls of the firmware of clients, each with the mote and the place of the client. -/
  journal : List ((Int × Nat) × Call) := []
  /-- The boots of motes, with the place of the application that was in use. -/
  booted : List (Int × Nat) := []
  own : μ

variable {κ μ : Type}

namespace Diary

/-- A diary with nothing noted in it. -/
def blank (own : μ) : Diary μ := { own }

/-- What the firmware of the client at a place of a mote has called. -/
def calls (id : Int) (slot : Nat) (d : Diary μ) : List Call :=
  d.journal.filterMap fun entry => if entry.1 = (id, slot) then some entry.2 else none

/-- How often a mote was booted while the application at a place was in use. -/
def boots (id : Int) (slot : Nat) (d : Diary μ) : Nat := d.booted.count (id, slot)

end Diary

/-- A world with a note of a call of the firmware of a client. -/
def noteCall (id : Int) (slot : Nat) (call : Call) (w : World κ (Diary μ)) : World κ (Diary μ) :=
  { w with memory := { w.memory with journal := w.memory.journal ++ [((id, slot), call)] } }

theorem calls_noteCall (id : Int) (slot : Nat) (call : Call) (w : World κ (Diary μ)) :
    (noteCall id slot call w).memory.calls id slot = w.memory.calls id slot ++ [call] := by
  simp only [noteCall, Diary.calls, List.filterMap_append, List.filterMap_cons, ↓reduceIte,
    List.filterMap_nil]

theorem calls_noteCall_of_ne {id id' : Int} {slot slot' : Nat} (other : (id', slot') ≠ (id, slot))
    (call : Call) (w : World κ (Diary μ)) :
    (noteCall id' slot' call w).memory.calls id slot = w.memory.calls id slot := by
  simp only [noteCall, Diary.calls, List.filterMap_append, List.filterMap_cons, other, ↓reduceIte,
    List.filterMap_nil, List.append_nil]

/-- Carries out a call of the firmware of a client, with a note of it and of whether it returned. -/
def calling (id : Int) (slot : Nat) (call : Bool → Call) (m : SimM κ (Diary μ) Unit) :
    SimM κ (Diary μ) Unit := fun w =>
  match m w with
  | .ok _ w => .ok () (noteCall id slot (call true) w)
  | .error i w => .error i (noteCall id slot (call false) w)

/-- A world with its diary forgotten. -/
def forget (w : World κ (Diary μ)) : World κ μ := w.remember Diary.own

/-- A world with a note that a mote boots. -/
def noteBoot (id : Int) (w : World κ (Diary μ)) : World κ (Diary μ) :=
  match w.motes.find? id with
  | none => w
  | some mote => { w with
      memory := { w.memory with booted := w.memory.booted ++ [(id, mote.currentSlot)] } }

section Noting

variable (hear : Hearing κ (Diary μ)) (slot : Nat)

/-- Logs a line of the firmware of a client, with a note of it. -/
def logNoting (id : Int) (msg : String) : SimM κ (Diary μ) Unit :=
  calling id slot (.log msg) (emit hear id msg)

/-- Has a mote receive a datagram of a client, with a note of it. -/
def handNoting (id target : Int) (payload : Payload) : SimM κ (Diary μ) Unit :=
  calling id slot (.hand target payload) (receive hear target payload)

/-- Tries to deliver a counter of a client, with a note that it does. -/
def attemptNoting (id : Int) (route : Route) (counter : Nat) : SimM κ (Diary μ) Bool := do
  modify (noteCall id slot (.attempt counter))
  deliverBy (handNoting hear slot id) id route counter

end Noting

/-- Fires events, with notes of boots and of what the firmware of clients calls. -/
def fireNoting (act : Behaviour κ (Diary μ)) : Event κ → SimM κ (Diary μ) Unit
  | .boot mote => do
    modify (noteBoot mote)
    boot (hear act) mote
  | .tick id slot => tickBy (logNoting (hear act) slot) (attemptNoting (hear act) slot) id slot
  | event => fire act event

/-- Whether an event is the timer of an application. -/
def isTimer : Event κ → Bool
  | .tick _ _ => true
  | _ => false

/-- Users' code. `consult` lets it depend on everything there is to see, `alter` changes anything but the
parameters, the scheduler and the motes. -/
inductive Program (κ μ : Type) where
  | answer (done : Bool)
  | raise (f : Failure)
  | schedule (delay : Int) (event : { event : Event κ // isTimer event = false }) (next : Program κ μ)
  | scheduleAt (time : Int) (event : { event : Event κ // isTimer event = false }) (next : Program κ μ)
  | stop (next : Program κ μ)
  | log (mote : Int) (msg : String) (next : Program κ μ)
  | boot (mote : Int) (next : Program κ μ)
  | bootAll (next : Program κ μ)
  | receive (mote : Int) (payload : Payload) (next : Program κ μ)
  | addMote (id : Int) (firmware : Option Firmware) (next : Program κ μ)
  | install (id : Int) (firmware : Firmware) (next : Program κ μ)
  | start (host : Nat) (next : Program κ μ)
  | registerDeadline (host : Nat) (after : Int) (action : Expiry κ) (next : Program κ μ)
  | alter (change : World κ μ → World κ μ) (next : Program κ μ)
  | consult (next : World κ μ → Program κ μ)

/-- A world changed at will, but for its parameters, its scheduler and its motes. -/
def altered (change : World κ μ → World κ μ) (w : World κ μ) : World κ μ :=
  { change w with config := w.config, scheduler := w.scheduler, motes := w.motes }

/-- Carries out users' code, given the behaviour of the code that it sets off. -/
def Program.exec (act : Behaviour κ μ) : Program κ μ → SimM κ μ Bool
  | .answer done => pure done
  | .raise f => fail f
  | .schedule delay event next => do
    Simulation.schedule delay event.val
    next.exec act
  | .scheduleAt time event next => do
    Simulation.scheduleAt time event.val
    next.exec act
  | .stop next => do
    Simulation.stop
    next.exec act
  | .log mote msg next => do
    emit (hear act) mote msg
    next.exec act
  | .boot mote next => do
    Simulation.boot (hear act) mote
    next.exec act
  | .bootAll next => do
    Simulation.bootAll
    next.exec act
  | .receive mote payload next => do
    Simulation.receive (hear act) mote payload
    next.exec act
  | .addMote id firmware next => do
    Simulation.addMote id firmware
    next.exec act
  | .install id firmware next => do
    Simulation.install id firmware
    next.exec act
  | .start host next => do
    Host.start act host
    next.exec act
  | .registerDeadline host after action next => do
    Host.registerDeadline host after action
    next.exec act
  | .alter change next => do
    modify (altered change)
    next.exec act
  | .consult next => do
    let w ← get
    (next w).exec act

/-- The behaviour of users' code. Code may set off other code; `limit` bounds the depth of this. -/
def behaviour (code : κ → Cue → Program κ μ) : Nat → Behaviour κ μ
  | 0 => fun _ _ => throw .exhausted
  | limit + 1 => fun c cue => (code c cue).exec (behaviour code limit)

/-- Users' code with notes of the boots that it orders. It sees and changes all but the diary. -/
def Program.noting : Program κ μ → Program κ (Diary μ)
  | .answer done => .answer done
  | .raise f => .raise f
  | .schedule delay event next => .schedule delay event next.noting
  | .scheduleAt time event next => .scheduleAt time event next.noting
  | .stop next => .stop next.noting
  | .log mote msg next => .log mote msg next.noting
  | .boot mote next => .alter (noteBoot mote) (.boot mote next.noting)
  | .bootAll next => .bootAll next.noting
  | .receive mote payload next => .receive mote payload next.noting
  | .addMote id firmware next => .addMote id firmware next.noting
  | .install id firmware next => .install id firmware next.noting
  | .start host next => .start host next.noting
  | .registerDeadline host after action next => .registerDeadline host after action next.noting
  | .alter change next =>
    .alter (fun w => (change (forget w)).remember fun own => { w.memory with own }) next.noting
  | .consult next => .consult fun w => (next (forget w)).noting

/-- The behaviour of users' code, with notes of the boots that it orders. -/
def behaviourNoting (code : κ → Cue → Program κ μ) : Nat → Behaviour κ (Diary μ) :=
  behaviour fun c cue => (code c cue).noting

section Forgetting

theorem forget_noteBoot (id : Int) (w : World κ (Diary μ)) : forget (noteBoot id w) = forget w := by
  unfold noteBoot
  cases w.motes.find? id <;> rfl

theorem altered_noteBoot (id : Int) :
    altered (noteBoot id) = (noteBoot id : World κ (Diary μ) → World κ (Diary μ)) := by
  funext w
  unfold altered noteBoot
  cases w.motes.find? id <;> rfl

/-- A note leaves no trace once the diary is forgotten. -/
theorem Mirrors.after_noteCall {α : Type} {m : SimM κ (Diary μ) α} {m' : SimM κ μ α}
    (mirrors : Mirrors Diary.own m m') (id : Int) (slot : Nat) (call : Call) :
    Mirrors Diary.own (modify (noteCall id slot call) >>= fun _ => m) m' :=
  fun w => mirrors (noteCall id slot call w)

theorem Mirrors.calling {m : SimM κ (Diary μ) Unit} {m' : SimM κ μ Unit}
    (mirrors : Mirrors Diary.own m m') (id : Int) (slot : Nat) (call : Bool → Call) :
    Mirrors Diary.own (calling id slot call m) m' := by
  intro w
  rw [mirrors w]
  unfold Protocol.calling
  cases m w <;> rfl

theorem Mirrors.after_noteBoot {α : Type} {m : SimM κ (Diary μ) α} {m' : SimM κ μ α}
    (mirrors : Mirrors Diary.own m m') (id : Int) :
    Mirrors Diary.own (modify (noteBoot id) >>= fun _ => m) m' := by
  intro w
  have same := mirrors (noteBoot id w)
  change m' (forget (noteBoot id w)) = _ at same
  rwa [forget_noteBoot] at same

variable {act : Behaviour κ (Diary μ)} {act' : Behaviour κ μ} (calls : Mirrored Diary.own act act')

include calls

/-- Events are fired as they are without notes. -/
theorem forget_fireNoting (event : Event κ) :
    Mirrors Diary.own (fireNoting act event) (fire act' event) := by
  have hears := Mirrors.hear calls
  cases event with
  | boot mote => exact Mirrors.after_noteBoot (Mirrors.boot hears mote) mote
  | tick id slot =>
    apply Mirrors.tickBy
    · exact fun msg => Mirrors.calling (Mirrors.emit hears id msg) id slot _
    · intro route counter
      apply Mirrors.after_noteCall
      apply Mirrors.deliverBy
      exact fun target payload => Mirrors.calling (Mirrors.receive hears target payload) id slot _
  | line mote msg => exact Mirrors.fire calls _
  | expire h after action => exact Mirrors.fire calls _
  | task c => exact Mirrors.fire calls _

/-- Users' code does what it does without notes. -/
theorem forget_noting (p : Program κ μ) : Mirrors Diary.own (p.noting.exec act) (p.exec act') := by
  have hears := Mirrors.hear calls
  induction p with
  | answer done => exact Mirrors.pure done
  | raise f => exact Mirrors.fail f
  | schedule delay event next ih => exact (Mirrors.schedule _ _).bind fun _ => ih
  | scheduleAt time event next ih => exact (Mirrors.scheduleAt _ _).bind fun _ => ih
  | stop next ih => exact Mirrors.stop.bind fun _ => ih
  | log mote msg next ih => exact (Mirrors.emit hears mote msg).bind fun _ => ih
  | boot mote next ih =>
    have boots := (Mirrors.boot hears mote).bind fun _ => ih
    change Mirrors Diary.own (modify (altered (noteBoot mote)) >>= fun _ => _) _
    rw [altered_noteBoot]
    exact Mirrors.after_noteBoot boots mote
  | bootAll next ih => exact Mirrors.bootAll.bind fun _ => ih
  | receive mote payload next ih => exact (Mirrors.receive hears mote payload).bind fun _ => ih
  | addMote id firmware next ih => exact (Mirrors.addMote id firmware).bind fun _ => ih
  | install id firmware next ih => exact (Mirrors.install id firmware).bind fun _ => ih
  | start host next ih => exact (Mirrors.start calls).bind fun _ => ih
  | registerDeadline host after action next ih =>
    exact (Mirrors.registerDeadline after action).bind fun _ => ih
  | alter change next ih => exact Mirrors.bind (Mirrors.modifies fun _ => rfl) fun _ => ih
  | consult next ih => exact Mirrors.reads fun w => ih (forget w)

end Forgetting

/-- By induction on how deep users' code sets off other code. -/
theorem forget_behaviourNoting (code : κ → Cue → Program κ μ) (limit : Nat) :
    Mirrored Diary.own (behaviourNoting code limit) (behaviour code limit) := by
  induction limit with
  | zero => exact fun _ _ => Mirrors.throws _
  | succ limit ih => exact fun c cue => forget_noting ih (code c cue)

end MoteTrial.Protocol
