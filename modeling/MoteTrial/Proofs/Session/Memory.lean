import MoteTrial.Proofs.Execution

/-! # The memory of users' code

Motes, hosts and the simulation leave the memory of users' code alone and do not look at it. So an event
does the same in two worlds of which one remembers an image of what the other does, if users' code does:
`Mirrors.fire` and `Mirrors.step`.
-/

namespace MoteTrial

open SimM Simulation

variable {κ μ ν : Type} {α β : Type}

/-- A world in which users' code remembers an image of what it remembers in another. -/
def World.remember (f : ν → μ) (w : World κ ν) : World κ μ := { w with memory := f w.memory }

/-- The result of an operation, in the world that remembers an image. -/
def rememberResult (f : ν → μ) :
    EStateM.Result Interrupt (World κ ν) α → EStateM.Result Interrupt (World κ μ) α
  | .ok a w => .ok a (w.remember f)
  | .error i w => .error i (w.remember f)

/-- An operation that does to the image of a world what another does to the world. -/
def Mirrors (f : ν → μ) (m : SimM κ ν α) (m' : SimM κ μ α) : Prop :=
  ∀ w, m' (w.remember f) = rememberResult f (m w)

/-- Users' code that does to the image of a world what other code does to the world. -/
def Mirrored (f : ν → μ) (act : Behaviour κ ν) (act' : Behaviour κ μ) : Prop :=
  ∀ c cue, Mirrors f (act c cue) (act' c cue)

namespace Mirrors

variable {f : ν → μ}

section Sequences

theorem pure (a : α) : Mirrors f (Pure.pure a : SimM κ ν α) (Pure.pure a) := fun _ => rfl

theorem throws (i : Interrupt) : Mirrors f (throw i : SimM κ ν α) (throw i) := fun _ => rfl

theorem fail (reason : Failure) : Mirrors f (SimM.fail reason : SimM κ ν α) (SimM.fail reason) :=
  fun _ => rfl

theorem bind {m : SimM κ ν α} {m' : SimM κ μ α} {g : α → SimM κ ν β} {g' : α → SimM κ μ β}
    (first : Mirrors f m m') (rest : ∀ a, Mirrors f (g a) (g' a)) :
    Mirrors f (m >>= g) (m' >>= g') := by
  intro w
  have same := first w
  cases ran : m w with
  | ok a w' =>
    rw [ran] at same
    rw [bind_ok ran, bind_ok same]
    exact rest a w'
  | error i w' =>
    rw [ran] at same
    rw [bind_error ran, bind_error same]
    rfl

theorem reads {g : World κ ν → SimM κ ν α} {g' : World κ μ → SimM κ μ α}
    (rest : ∀ w, Mirrors f (g w) (g' (w.remember f))) : Mirrors f (get >>= g) (get >>= g') :=
  fun w => rest w w

theorem modifies {g : World κ ν → World κ ν} {g' : World κ μ → World κ μ}
    (same : ∀ w, g' (w.remember f) = (g w).remember f) :
    Mirrors f (modify g : SimM κ ν Unit) (modify g') :=
  fun w => congrArg (EStateM.Result.ok ()) (same w)

theorem final {m : SimM κ ν α} {m' : SimM κ μ α} (mirrors : Mirrors f m m') (w : World κ ν) :
    SimM.final m' (w.remember f) = (SimM.final m w).remember f := by
  unfold SimM.final
  rw [mirrors w]
  cases m w <;> rfl

theorem ofExcept (result : Except Failure α) :
    Mirrors f (SimM.ofExcept result : SimM κ ν α) (SimM.ofExcept result) := by
  cases result with
  | ok a => exact pure a
  | error reason => exact fail reason

end Sequences

section Motes

theorem onScheduler (g : Scheduler (Event κ) → Except Failure (Scheduler (Event κ))) :
    Mirrors f (SimM.onScheduler g : SimM κ ν Unit) (SimM.onScheduler g) :=
  reads fun _ => (ofExcept _).bind fun _ => modifies fun _ => rfl

theorem schedule (delay : Int) (event : Event κ) :
    Mirrors f (Simulation.schedule delay event : SimM κ ν Unit) (Simulation.schedule delay event) :=
  onScheduler _

theorem scheduleAt (time : Int) (event : Event κ) :
    Mirrors f (Simulation.scheduleAt time event : SimM κ ν Unit) (Simulation.scheduleAt time event) :=
  onScheduler _

theorem stop : Mirrors f (Simulation.stop : SimM κ ν Unit) Simulation.stop := fun _ => rfl

theorem print (text : String) : Mirrors f (SimM.print text : SimM κ ν Unit) (SimM.print text) :=
  fun _ => rfl

theorem setMote (id : Int) (mote : Mote) :
    Mirrors f (Simulation.setMote id mote : SimM κ ν Unit) (Simulation.setMote id mote) :=
  fun _ => rfl

theorem addMote (id : Int) (firmware : Option Firmware) :
    Mirrors f (Simulation.addMote id firmware : SimM κ ν Unit) (Simulation.addMote id firmware) := by
  unfold Simulation.addMote
  apply reads
  intro w
  dsimp only [World.remember]
  cases w.motes.has id
  case' true =>
    apply (fail _).bind
    intro _
  all_goals
    cases firmware with
    | none => exact setMote _ _
    | some firmware => exact setMote _ _

theorem getMote (id : Int) :
    Mirrors f (Simulation.getMote id : SimM κ ν Mote) (Simulation.getMote id) := by
  unfold Simulation.getMote
  apply reads
  intro w
  dsimp only [World.remember]
  cases w.motes.find? id with
  | some mote => exact pure mote
  | none => exact (setMote _ _).bind fun _ => pure _

theorem install (id : Int) (firmware : Firmware) :
    Mirrors f (Simulation.install id firmware : SimM κ ν Unit) (Simulation.install id firmware) :=
  (getMote id).bind fun _ => setMote _ _

theorem modifyClient (id : Int) (slot : Nat) (g : Client → Client) :
    Mirrors f (Simulation.modifyClient id slot g : SimM κ ν Unit)
      (Simulation.modifyClient id slot g) := by
  apply modifies
  intro w
  dsimp only [World.remember]
  cases w.motes.find? id with
  | none => rfl
  | some mote =>
    dsimp only
    cases mote.client? slot <;> rfl

theorem client? (id : Int) (slot : Nat) :
    Mirrors f (Simulation.client? id slot : SimM κ ν (Option Client)) (Simulation.client? id slot) :=
  fun _ => rfl

theorem firmware? (id : Int) (slot : Nat) :
    Mirrors f (Simulation.firmware? id slot : SimM κ ν (Option Firmware))
      (Simulation.firmware? id slot) := fun _ => rfl

theorem transmit (source target : Int) :
    Mirrors f (Simulation.transmit source target : SimM κ ν Bool)
      (Simulation.transmit source target) := fun _ => rfl

theorem transmitVia (source relay target : Int) :
    Mirrors f (Simulation.transmitVia source relay target : SimM κ ν Bool)
      (Simulation.transmitVia source relay target) := by
  unfold Simulation.transmitVia
  apply (transmit source relay).bind
  intro heard
  cases heard with
  | true => exact transmit relay target
  | false => exact pure false

theorem nextInterval :
    Mirrors f (Simulation.nextInterval : SimM κ ν Int) Simulation.nextInterval := by
  have draws (w : World κ ν) : Mirrors f
      (do modify fun v => { v with jitter := (w.jitter.next w.config.clientSendJitter.toNat).2 }
          return w.config.clientSendInterval +
            (w.jitter.next w.config.clientSendJitter.toNat).1 : SimM κ ν Int)
      (do modify fun v => { v with jitter := (w.jitter.next w.config.clientSendJitter.toNat).2 }
          return w.config.clientSendInterval +
            (w.jitter.next w.config.clientSendJitter.toNat).1) :=
    Mirrors.bind (modifies fun _ => rfl) fun _ => pure _
  unfold Simulation.nextInterval
  apply reads
  intro w
  dsimp only [World.remember]
  split
  · exact (fail _).bind fun _ => draws w
  · exact draws w

theorem onMedium (g : Config → Medium → Except Failure (α × Medium)) :
    Mirrors f (SimM.onMedium g : SimM κ ν α) (SimM.onMedium g) :=
  reads fun _ => (ofExcept _).bind fun (a, _) => Mirrors.bind (modifies fun _ => rfl) fun _ => pure a

theorem observe (g : Observer → Observer) :
    Mirrors f (SimM.observe g : SimM κ ν Unit) (SimM.observe g) := fun _ => rfl

theorem changeLink (kind : Change) (a b : Int) :
    Mirrors f (Simulation.changeLink kind a b : SimM κ ν Unit) (Simulation.changeLink kind a b) := by
  unfold Simulation.changeLink
  apply reads
  intro w
  apply (onMedium _).bind
  intro _
  apply (ofExcept _).bind
  intro time
  apply (ofExcept _).bind
  intro first
  apply (ofExcept _).bind
  intro second
  apply (print _).bind
  intro _
  apply reads
  intro w
  dsimp only [World.remember]
  cases w.radioTrace with
  | none => exact pure ()
  | some id => exact observe _

theorem bootAll : Mirrors f (Simulation.bootAll : SimM κ ν Unit) Simulation.bootAll := by
  have boots (interval : Int) (entries : List (Int × Mote)) :
      Mirrors f (bootEach interval entries : SimM κ ν Unit) (bootEach interval entries) := by
    induction entries with
    | nil => exact pure ()
    | cons entry rest ih =>
      obtain ⟨id, mote⟩ := entry
      unfold bootEach
      split
      · exact (schedule _ _).bind fun _ => ih
      · exact ih
  exact reads fun w => boots w.config.bootInterval w.motes.entries

/-- The timer of a client, if its lines are logged and its counters delivered alike. -/
theorem tickBy {log : Int → String → SimM κ ν Unit} {log' : Int → String → SimM κ μ Unit}
    {attempt : Int → Route → Nat → SimM κ ν Bool} {attempt' : Int → Route → Nat → SimM κ μ Bool}
    {id : Int} (logs : ∀ msg, Mirrors f (log id msg) (log' id msg))
    (attempts : ∀ route counter, Mirrors f (attempt id route counter) (attempt' id route counter))
    (slot : Nat) : Mirrors f (Simulation.tickBy log attempt id slot)
      (Simulation.tickBy log' attempt' id slot) := by
  have rearms : Mirrors f
      (do Simulation.schedule (← Simulation.nextInterval) (.tick id slot) : SimM κ ν Unit)
      (do Simulation.schedule (← Simulation.nextInterval) (.tick id slot)) :=
    nextInterval.bind fun _ => schedule _ _
  have sends : Mirrors f (sendNextBy attempt id slot) (sendNextBy attempt' id slot) := by
    unfold sendNextBy
    apply (modifyClient _ _ _).bind
    intro _
    apply (client? id slot).bind
    intro client
    cases client with
    | none => exact pure ()
    | some c =>
      apply (attempts _ _).bind
      intro delivered
      cases delivered with
      | true => exact (modifyClient _ _ _).bind fun _ => rearms
      | false => exact rearms
  unfold Simulation.tickBy
  apply (firmware? id slot).bind
  intro firmware
  cases firmware with
  | none => exact pure ()
  | some firmware =>
    cases firmware with
    | base | server _ => exact pure ()
    | blankClient => exact fail _
    | client c =>
      dsimp only
      cases c.exhausted with
      | true => exact reads fun w => (logs _).bind fun _ => modifyClient _ _ _
      | false =>
        apply reads
        intro w
        dsimp only [World.remember]
        cases c.progress? w.config with
        | none => exact sends
        | some report => exact (logs report).bind fun _ => sends

/-- The delivery of a counter, if it is handed over alike. -/
theorem deliverBy {hand : Int → Payload → SimM κ ν Unit} {hand' : Int → Payload → SimM κ μ Unit}
    (hands : ∀ id payload, Mirrors f (hand id payload) (hand' id payload)) (id : Int) (route : Route)
    (counter : Nat) : Mirrors f (Simulation.deliverBy hand id route counter)
      (Simulation.deliverBy hand' id route counter) := by
  have received : Mirrors f (do
      hand route.server (.number counter)
      return true : SimM κ ν Bool) (do
      hand' route.server (.number counter)
      return true) := (hands _ _).bind fun _ => pure true
  unfold Simulation.deliverBy
  apply reads
  intro w
  dsimp only [World.remember]
  cases w.motes.has route.server with
  | false => exact pure false
  | true =>
    apply (transmit _ _).bind
    intro heard
    cases heard with
    | true => exact received
    | false =>
      cases route.relay with
      | none => exact pure false
      | some relay =>
        apply reads
        intro w
        dsimp only [World.remember]
        cases w.motes.has relay with
        | false => exact pure false
        | true =>
          apply (transmitVia _ _ _).bind
          intro heard
          cases heard with
          | true => exact received
          | false => exact pure false

variable {hear : Hearing κ ν} {hear' : Hearing κ μ}
  (hears : ∀ l mote msg, Mirrors f (hear l mote msg) (hear' l mote msg))

include hears

theorem emit (mote : Int) (msg : String) :
    Mirrors f (Simulation.emit hear mote msg) (Simulation.emit hear' mote msg) := by
  have tells (listeners : List (Listener κ)) :
      Mirrors f (tell hear mote msg listeners) (tell hear' mote msg listeners) := by
    induction listeners with
    | nil => exact pure ()
    | cons listener rest ih => exact (hears listener mote msg).bind fun _ => ih
  exact reads fun w => tells w.listeners

theorem boot (id : Int) : Mirrors f (Simulation.boot hear id) (Simulation.boot hear' id) := by
  unfold Simulation.boot
  apply reads
  intro w
  dsimp only [World.remember]
  cases w.motes.find? id with
  | none => exact pure ()
  | some mote =>
    dsimp only
    cases mote.firmware? with
    | none => exact pure ()
    | some firmware =>
      apply (ofExcept _).bind
      intro shown
      apply (emit hears _ _).bind
      intro _
      cases firmware with
      | client _ | blankClient => exact schedule _ _
      | base | server _ => exact pure ()

theorem receive (id : Int) (payload : Payload) :
    Mirrors f (Simulation.receive hear id payload) (Simulation.receive hear' id payload) := by
  unfold Simulation.receive
  apply reads
  intro w
  dsimp only [World.remember]
  cases w.motes.find? id with
  | none => exact pure ()
  | some mote =>
    dsimp only
    cases mote.firmware? with
    | none => exact pure ()
    | some firmware =>
      cases firmware with
      | server received =>
        exact (setMote _ _).bind fun _ => (ofExcept _).bind fun _ => emit hears _ _
      | base | client _ | blankClient => exact pure ()

theorem tick (id : Int) (slot : Nat) :
    Mirrors f (Simulation.tick hear id slot) (Simulation.tick hear' id slot) :=
  tickBy (emit hears id) (deliverBy (receive hears) id) slot

end Motes

section Hosts

variable {h : Nat}

theorem change (g : Host κ → Host κ) :
    Mirrors f (Host.change h g : SimM κ ν Unit) (Host.change h g) := fun _ => rfl

theorem onLog (m : LogM Unit) : Mirrors f (Host.onLog h m : SimM κ ν Unit) (Host.onLog h m) := by
  intro w
  unfold Host.onLog
  dsimp only [World.remember]
  cases w.hosts[h]? with
  | none => rfl
  | some host =>
    dsimp only
    cases m (host.log, w.observer) <;> rfl

theorem pass : Mirrors f (Host.pass h : SimM κ ν Unit) (Host.pass h) :=
  reads fun _ => onLog _

theorem failTest (reason : String) :
    Mirrors f (Host.failTest h reason : SimM κ ν Unit) (Host.failTest h reason) :=
  reads fun _ => onLog _

theorem write (text : String) (mote : Int) :
    Mirrors f (Host.write h text mote : SimM κ ν Unit) (Host.write h text mote) :=
  reads fun _ => onLog _

theorem registerDeadline (after : Int) (action : Expiry κ) :
    Mirrors f (Host.registerDeadline h after action : SimM κ ν Unit)
      (Host.registerDeadline h after action) := by
  have sets : Mirrors f (do
      Host.change h fun host => { host with deadlineSet := true }
      Simulation.schedule after (.expire h after action) : SimM κ ν Unit) (do
      Host.change h fun host => { host with deadlineSet := true }
      Simulation.schedule after (.expire h after action)) :=
    (change _).bind fun _ => schedule _ _
  unfold Host.registerDeadline
  apply reads
  intro w
  dsimp only [World.remember]
  cases w.hosts[h]? with
  | none => exact pure ()
  | some host =>
    dsimp only
    split
    · exact (fail _).bind fun _ => sets
    · exact sets

theorem finish : Mirrors f (Host.finish h : SimM κ ν Unit) (Host.finish h) := by
  unfold Host.finish
  apply (change _).bind
  intro _
  apply reads
  intro w
  dsimp only [World.remember]
  cases w.hosts[h]? with
  | none => exact pure ()
  | some host =>
    dsimp only
    split
    · exact (failTest _).bind fun _ => stop
    · exact stop

theorem handleFailure (reason : Failure) :
    Mirrors f (Host.handleFailure h reason : SimM κ ν Unit) (Host.handleFailure h reason) := by
  unfold Host.handleFailure
  apply (change _).bind
  intro _
  apply reads
  intro w
  dsimp only [World.remember]
  cases w.hosts[h]? with
  | none => exact pure ()
  | some host =>
    exact (print _).bind fun _ => (failTest _).bind fun _ => (change _).bind fun _ => stop

theorem guarded {m : SimM κ ν Bool} {m' : SimM κ μ Bool} (part : Mirrors f m m') :
    Mirrors f (Host.guarded h m) (Host.guarded h m') := by
  intro w
  unfold Host.guarded
  rw [part w]
  cases m w with
  | ok done w => rfl
  | error i w =>
    cases i with
    | exhausted => rfl
    | failure reason => exact ((handleFailure reason).bind fun _ => throws _) w

theorem changeLinkFault (g : LinkFault → LinkFault) :
    Mirrors f (Host.changeLinkFault h g : SimM κ ν Unit) (Host.changeLinkFault h g) := change _

theorem handleLinkFault (attached : Bool) (state : LinkFault) (mote : Int) (msg : String) :
    Mirrors f (Host.handleLinkFault h attached state mote msg : SimM κ ν Bool)
      (Host.handleLinkFault h attached state mote msg) := by
  have counts (g : LinkFault → LinkFault) : Mirrors f (do
      Host.changeLinkFault h g
      return false : SimM κ ν Bool) (do
      Host.changeLinkFault h g
      return false) := (changeLinkFault g).bind fun _ => pure false
  have ends : Mirrors f (do
      Host.pass h
      return true : SimM κ ν Bool) (do
      Host.pass h
      return true) := pass.bind fun _ => pure true
  have copies : Mirrors f (do
      Host.write h (msg ++ "\n") mote
      Host.changeLinkFault h fun s => { s with logged := s.logged + 1 }
      return false : SimM κ ν Bool) (do
      Host.write h (msg ++ "\n") mote
      Host.changeLinkFault h fun s => { s with logged := s.logged + 1 }
      return false) := (write _ _).bind fun _ => counts _
  unfold Host.handleLinkFault
  apply reads
  intro w
  dsimp only [World.remember]
  cases Message.classify msg with
  | done =>
    cases attached with
    | false => exact (fail _).bind fun _ => ends
    | true => exact ends
  | deteriorate | improve =>
    exact (ofExcept _).bind fun between =>
      (changeLink _ between.1 between.2).bind fun _ => counts _
  | started =>
    dsimp only
    cases Message.startedEndpoint? w.config msg with
    | none => exact pure false
    | some endpoint => exact counts _
  | other =>
    cases attached with
    | false => exact (fail _).bind fun _ => copies
    | true => exact copies

theorem handleReception (timeout : Int) (attached : Bool) (trace : Option Nat) (state : Reception)
    (mote : Int) (msg : String) :
    Mirrors f (Host.handleReception h timeout attached trace state mote msg : SimM κ ν Bool)
      (Host.handleReception h timeout attached trace state mote msg) := by
  unfold Host.handleReception
  apply reads
  intro w
  apply (ofExcept _).bind
  intro found
  cases found with
  | none => exact pure false
  | some counter =>
    apply (change _).bind
    intro _
    cases attached
    case' false =>
      apply (fail _).bind
      intro _
    -- whether the script is attached or not, its report is next
    all_goals
      apply (ofExcept _).bind
      intro shown
      apply (ofExcept _).bind
      intro lost
      apply (ofExcept _).bind
      intro last
      apply (write _ _).bind
      intro _
      cases trace with
      | none => exact pure false
      | some id => exact reads fun _ => (observe _).bind fun _ => pure false

variable {act : Behaviour κ ν} {act' : Behaviour κ μ} (calls : Mirrored f act act')

include calls

theorem start : Mirrors f (Host.start act h) (Host.start act' h) := by
  have sets : Mirrors f (Host.setup act h) (Host.setup act' h) := by
    unfold Host.setup
    apply reads
    intro w
    dsimp only [World.remember]
    cases w.hosts[h]? with
    | none => exact pure false
    | some host =>
      dsimp only
      cases host.script with
      | linkFault timeout attached state | reception timeout attached trace state =>
        exact (change _).bind fun _ => (registerDeadline _ _).bind fun _ => pure false
      | code c => exact calls c _
  exact (guarded sets).bind fun _ => pure ()

theorem handle (mote : Int) (msg : String) :
    Mirrors f (Host.handle act h mote msg) (Host.handle act' h mote msg) := by
  unfold Host.handle
  apply reads
  intro w
  dsimp only [World.remember]
  cases w.hosts[h]? with
  | none => exact pure false
  | some host =>
    dsimp only
    cases host.script with
    | linkFault timeout attached state => exact handleLinkFault attached state mote msg
    | reception timeout attached trace state =>
      exact handleReception timeout attached trace state mote msg
    | code c => exact calls c _

theorem hearLine (mote : Int) (msg : String) :
    Mirrors f (Host.hearLine act h mote msg) (Host.hearLine act' h mote msg) := by
  unfold Host.hearLine
  apply reads
  intro w
  dsimp only [World.remember]
  cases w.hosts[h]? with
  | none => exact pure ()
  | some host =>
    dsimp only
    split
    · exact pure ()
    · apply (change _).bind
      intro _
      apply (guarded (handle calls mote msg)).bind
      intro done
      cases done with
      | false => exact pure ()
      | true =>
        apply reads
        intro w
        dsimp only [World.remember]
        cases w.hosts[h]? with
        | none => exact pure ()
        | some host =>
          dsimp only
          split
          · exact finish
          · exact pure ()

theorem deadlineAction (action : Expiry κ) :
    Mirrors f (Host.deadlineAction act h action) (Host.deadlineAction act' h action) := by
  unfold Host.deadlineAction
  cases action with
  | nothing => exact pure false
  | code c => exact calls c _
  | builtIn =>
    apply reads
    intro w
    dsimp only [World.remember]
    cases w.hosts[h]? with
    | none => exact pure false
    | some host =>
      dsimp only
      cases host.script with
      | linkFault timeout attached state =>
        exact (ofExcept _).bind fun time => (failTest _).bind fun _ => pure false
      | reception timeout attached trace state =>
        dsimp only
        split
        · exact pass.bind fun _ => pure false
        · exact pure false
      | code c => exact pure false

theorem expire (after : Int) (action : Expiry κ) :
    Mirrors f (Host.expire act h after action) (Host.expire act' h after action) := by
  unfold Host.expire
  apply reads
  intro w
  dsimp only [World.remember]
  cases w.hosts[h]? with
  | none => exact pure ()
  | some host =>
    dsimp only
    split
    · exact pure ()
    · apply (change _).bind
      intro _
      apply (ofExcept _).bind
      intro time
      apply (print _).bind
      intro _
      exact (guarded (deadlineAction calls action)).bind fun _ => finish

theorem hear (l : Listener κ) (mote : Int) (msg : String) :
    Mirrors f (Simulation.hear act l mote msg) (Simulation.hear act' l mote msg) := by
  cases l with
  | host h => exact hearLine calls mote msg
  | code c => exact (calls c _).bind fun _ => pure ()

/-- Events do the same in a world that remembers an image. -/
theorem fire (event : Event κ) :
    Mirrors f (Simulation.fire act event) (Simulation.fire act' event) := by
  cases event with
  | boot mote => exact boot (hear calls) mote
  | tick mote slot => exact tick (hear calls) mote slot
  | line mote msg => exact emit (hear calls) mote msg
  | expire h after action => exact expire calls after action
  | task c => exact (calls c _).bind fun _ => pure ()

end Hosts

/-- The next event is the same in a world that remembers an image. -/
theorem step {fire : Event κ → SimM κ ν Unit} {fire' : Event κ → SimM κ μ Unit}
    (fires : ∀ event, Mirrors f (fire event) (fire' event)) :
    Mirrors f (Simulation.step fire) (Simulation.step fire') := by
  unfold Simulation.step
  apply reads
  intro w
  dsimp only [World.remember]
  cases w.scheduler.stopped with
  | true => exact pure false
  | false =>
    cases w.scheduler.next? with
    | none => exact pure false
    | some next =>
      exact Mirrors.bind (modifies fun _ => rfl) fun _ => (fires _).bind fun _ =>
        Mirrors.bind (modifies fun _ => rfl) fun _ => pure true

end Mirrors

end MoteTrial
