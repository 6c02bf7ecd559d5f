import MoteTrial.Proofs.Host.Operations
import MoteTrial.Proofs.Trace.Sight

/-! # Operations on which tracing has no bearing

Every operation of motes and of hosts is oblivious of what observes the world, if what the listeners
do is.
-/

namespace MoteTrial

open SimM Simulation

variable {κ μ : Type} {α β : Type} {s : Sight} {w w' : World κ μ}

namespace Oblivious

/-- An operation that depends on a world by what is the same alone. -/
theorem common {f : World κ μ → SimM κ μ β} (same : ∀ {w w' : World κ μ}, Same s w w' → f w' = f w)
    (rest : ∀ w, Oblivious s (f w)) : Oblivious s (get >>= f) :=
  Parallel.reads fun {w w'} alike => by
    rw [same alike]
    exact rest w

section Motes

theorem onScheduler (f : Scheduler (Event κ) → Except Failure (Scheduler (Event κ))) :
    Oblivious s (SimM.onScheduler f : SimM κ μ Unit) := by
  unfold SimM.onScheduler
  refine common (fun ⟨_, _, _⟩ => rfl) fun w => (Parallel.ofExcept _).bind fun scheduler => ?_
  exact Parallel.modify fun ⟨alike, placed, viewed⟩ => ⟨alike, placed, viewed⟩

theorem schedule (delay : Int) (event : Event κ) :
    Oblivious s (Simulation.schedule delay event : SimM κ μ Unit) := onScheduler _

theorem scheduleAt (time : Int) (event : Event κ) :
    Oblivious s (Simulation.scheduleAt time event : SimM κ μ Unit) := onScheduler _

theorem stop : Oblivious s (Simulation.stop : SimM κ μ Unit) :=
  Parallel.modify fun ⟨alike, placed, viewed⟩ => ⟨alike, placed, viewed⟩

theorem addListener (listener : Listener κ) :
    Oblivious s (Simulation.addListener listener : SimM κ μ Unit) :=
  Parallel.modify fun ⟨alike, placed, viewed⟩ => ⟨alike, placed, viewed⟩

theorem setMote (id : Int) (mote : Mote) : Oblivious s (Simulation.setMote id mote : SimM κ μ Unit) :=
  Parallel.modify fun ⟨alike, placed, viewed⟩ => ⟨alike, placed, viewed⟩

theorem modifyClient (id : Int) (slot : Nat) (f : Client → Client) :
    Oblivious s (Simulation.modifyClient id slot f : SimM κ μ Unit) := by
  refine Parallel.modify fun ⟨alike, placed, viewed⟩ => ?_
  dsimp only
  split
  · exact ⟨alike, placed, viewed⟩
  · split
    · exact ⟨alike, placed, viewed⟩
    · exact ⟨alike, placed, viewed⟩

theorem transmit (source target : Int) :
    Oblivious s (Simulation.transmit source target : SimM κ μ Bool) :=
  fun _ _ ⟨alike, placed, viewed⟩ => .ok _ ⟨alike, placed, viewed⟩

theorem transmitVia (source relay target : Int) :
    Oblivious s (Simulation.transmitVia source relay target : SimM κ μ Bool) := by
  unfold Simulation.transmitVia
  refine (transmit source relay).bind fun heard => ?_
  split
  · exact transmit relay target
  · exact Parallel.pure _

theorem nextInterval : Oblivious s (Simulation.nextInterval : SimM κ μ Int) := by
  unfold Simulation.nextInterval
  refine common (fun ⟨_, _, _⟩ => rfl) fun w => ?_
  simp only
  split
  · exact (Parallel.fail _).bind fun _ => Parallel.bind
      (Parallel.modify fun ⟨alike, placed, viewed⟩ => ⟨alike, placed, viewed⟩) fun _ => Parallel.pure _
  · exact Parallel.bind
      (Parallel.modify fun ⟨alike, placed, viewed⟩ => ⟨alike, placed, viewed⟩) fun _ => Parallel.pure _

theorem onMedium (f : Config → Medium → Except Failure (α × Medium)) :
    Oblivious s (SimM.onMedium f : SimM κ μ α) := by
  unfold SimM.onMedium
  refine common (fun ⟨_, _, _⟩ => rfl) fun w => (Parallel.ofExcept _).bind fun (a, medium) => ?_
  refine Parallel.bind ?_ fun _ => Parallel.pure a
  exact Parallel.modify fun ⟨alike, placed, viewed⟩ => ⟨alike, placed, viewed⟩

/-- A change of a link is recorded or not. -/
theorem changeLink (kind : Change) (a b : Int) :
    Oblivious s (Simulation.changeLink kind a b : SimM κ μ Unit) := by
  unfold Simulation.changeLink
  refine common (fun ⟨_, _, _⟩ => rfl) fun w => (onMedium _).bind fun _ => ?_
  refine (Parallel.ofExcept _).bind fun time => (Parallel.ofExcept _).bind fun first => ?_
  refine (Parallel.ofExcept _).bind fun second => (Parallel.print _ _).bind fun _ => ?_
  refine Parallel.reads fun {v v'} same => ?_
  have placed := same.placed
  generalize v.radioTrace = trace, v'.radioTrace = trace' at placed ⊢
  have recorded := Parallel.record (κ := κ) (μ := μ)
    (Sight.records_link ⟨w.now, kind.name, a, b⟩) placed
  cases trace <;> cases trace' <;> exact recorded

variable {hear : Hearing κ μ} (hears : ∀ l mote msg, Oblivious s (hear l mote msg))

include hears

theorem tell (mote : Int) (msg : String) (listeners : List (Listener κ)) :
    Oblivious s (Simulation.tell hear mote msg listeners) := by
  induction listeners with
  | nil => exact Parallel.pure ()
  | cons listener rest ih => exact (hears listener mote msg).bind fun _ => ih

theorem emit (mote : Int) (msg : String) : Oblivious s (Simulation.emit hear mote msg) :=
  common (fun ⟨_, _, _⟩ => rfl) fun w => tell hears mote msg w.listeners

theorem boot (id : Int) : Oblivious s (Simulation.boot hear id) := by
  unfold Simulation.boot
  refine common (fun ⟨_, _, _⟩ => rfl) fun w => ?_
  split
  · exact Parallel.pure ()
  · split
    · exact Parallel.pure ()
    · refine (Parallel.ofExcept _).bind fun shown => (emit hears _ _).bind fun _ => ?_
      split
      · exact schedule _ _
      · exact schedule _ _
      · exact Parallel.pure ()

theorem receive (id : Int) (payload : Payload) : Oblivious s (Simulation.receive hear id payload) := by
  unfold Simulation.receive
  refine common (fun ⟨_, _, _⟩ => rfl) fun w => ?_
  split
  · exact Parallel.pure ()
  · split
    · exact (setMote _ _).bind fun _ => (Parallel.ofExcept _).bind fun _ => emit hears _ _
    · exact Parallel.pure ()

theorem deliver (id : Int) (route : Route) (counter : Nat) :
    Oblivious s (Simulation.deliver hear id route counter) := by
  have received : Oblivious s (do
      Simulation.receive hear route.server (.number counter)
      return true : SimM κ μ Bool) := (receive hears _ _).bind fun _ => Parallel.pure true
  unfold Simulation.deliver deliverBy
  refine common (fun ⟨_, _, _⟩ => rfl) fun w => ?_
  split
  · exact Parallel.pure false
  · refine (transmit _ _).bind fun heard => ?_
    split
    · exact received
    · split
      · exact Parallel.pure false
      · refine common (fun ⟨_, _, _⟩ => rfl) fun w => ?_
        split
        · exact Parallel.pure false
        · refine (transmitVia _ _ _).bind fun heard => ?_
          split
          · exact received
          · exact Parallel.pure false

theorem sendNext (id : Int) (slot : Nat) : Oblivious s (Simulation.sendNext hear id slot) := by
  have rearms : Oblivious s (do
      Simulation.schedule (← Simulation.nextInterval) (.tick id slot) : SimM κ μ Unit) :=
    nextInterval.bind fun _ => schedule _ _
  unfold Simulation.sendNext sendNextBy Simulation.client?
  refine (modifyClient _ _ _).bind fun _ => common (fun ⟨_, _, _⟩ => rfl) fun w => ?_
  dsimp only
  split
  · exact Parallel.pure ()
  · refine (deliver hears _ _ _).bind fun delivered => ?_
    split
    · exact (modifyClient _ _ _).bind fun _ => rearms
    · exact rearms

theorem tick (id : Int) (slot : Nat) : Oblivious s (Simulation.tick hear id slot) := by
  unfold Simulation.tick tickBy Simulation.firmware?
  refine common (fun ⟨_, _, _⟩ => rfl) fun w => ?_
  split
  · exact Parallel.pure ()
  · exact Parallel.pure ()
  · exact Parallel.pure ()
  · exact Parallel.fail _
  · split
    · refine common (fun ⟨_, _, _⟩ => rfl) fun w => ?_
      exact (emit hears _ _).bind fun _ => modifyClient _ _ _
    · refine common (fun ⟨_, _, _⟩ => rfl) fun w => ?_
      split
      · exact sendNext hears id slot
      · exact (emit hears _ _).bind fun _ => sendNext hears id slot

end Motes

end Oblivious

section Logs

variable {log log' : TestLog} {o o' : Observer}

/-- The same results of operations on logs. -/
inductive LogMatches (s : Sight) : EStateM.Result Failure (TestLog × Observer) Unit →
    EStateM.Result Failure (TestLog × Observer) Unit → Prop where
  | ok {log log' : TestLog} {o o' : Observer} (alike : TestLog.Alike s log log')
    (viewed : s.view o = s.view o') : LogMatches s (.ok () (log, o)) (.ok () (log', o'))
  | error (f : Failure) {log log' : TestLog} {o o' : Observer} (alike : TestLog.Alike s log log')
    (viewed : s.view o = s.view o') : LogMatches s (.error f (log, o)) (.error f (log', o'))

/-- An operation on logs on which it has no bearing what observes them. -/
def LogOblivious (s : Sight) (m : LogM Unit) : Prop :=
  ∀ {log log' : TestLog} {o o' : Observer}, TestLog.Alike s log log' → s.view o = s.view o' →
    LogMatches s (m (log, o)) (m (log', o'))

theorem TestLog.pass_oblivious (now : Int) : LogOblivious s (TestLog.pass now) := by
  intro log log' o o' alike viewed
  obtain ⟨echo, placed⟩ := alike
  unfold TestLog.pass
  simp only [get_bind_apply]
  split
  · cases writable : Numeral.isWritable now with
    | true =>
      rw [bind_ok (TestLog.writeInt_apply writable _), bind_ok (TestLog.writeInt_apply writable _)]
      exact .ok (.mk echo placed) (by rw [s.view_print, s.view_print, viewed])
    | false =>
      rw [bind_error (TestLog.writeInt_unwritable writable _),
        bind_error (TestLog.writeInt_unwritable writable _)]
      exact .error _ (.mk echo placed) viewed
  · exact .ok (.mk echo placed) viewed

theorem TestLog.fail_oblivious (now : Int) (reason : String) :
    LogOblivious s (TestLog.fail now reason) := by
  intro log log' o o' alike viewed
  obtain ⟨echo, placed⟩ := alike
  unfold TestLog.fail
  simp only [get_bind_apply]
  split
  · exact .ok (.mk echo placed) viewed
  · simp only [modify_bind_apply]
    cases writable : Numeral.isWritable now with
    | true =>
      rw [bind_ok (TestLog.writeInt_apply writable _), bind_ok (TestLog.writeInt_apply writable _)]
      exact .ok (.mk echo placed) (by rw [s.view_print, s.view_print, viewed])
    | false =>
      rw [bind_error (TestLog.writeInt_unwritable writable _),
        bind_error (TestLog.writeInt_unwritable writable _)]
      exact .error _ (.mk echo placed) viewed

/-- A line is recorded or not, and shown or not. -/
theorem TestLog.write_oblivious (now : Int) (text : String) (mote : Int) :
    LogOblivious s (TestLog.write now text mote) := by
  intro log log' o o' alike viewed
  obtain ⟨echo, placed⟩ := alike
  have shown (echo : Bool) (o : Observer) :
      s.view (if echo then o.print (TestLog.shown text) else o) = s.view o := by
    cases echo with
    | true => exact s.view_print o _
    | false => rfl
  refine .ok (.mk echo placed) ?_
  exact Sight.view_recorded (Sight.records_log now mote text) placed
    ((shown _ o).trans (viewed.trans (shown echo o').symm))

end Logs

namespace Oblivious

section Hosts

variable {h : Nat} {act : Behaviour κ μ}

/-- Changes of hosts that make hosts alike of hosts that are. -/
theorem change {f f' : Host κ → Host κ}
    (respects : ∀ {host host'}, Host.Alike s host host' → Host.Alike s (f host) (f' host')) :
    Parallel s (Host.change h f : SimM κ μ Unit) (Host.change h f') :=
  Parallel.modify fun ⟨alike, placed, viewed⟩ => ⟨alike.modify respects, placed, viewed⟩

theorem onLog {m : LogM Unit} (oblivious : LogOblivious s m) :
    Oblivious s (Host.onLog h m : SimM κ μ Unit) := by
  intro w w' same
  have there := same.sameHosts.each h
  unfold Host.onLog
  generalize w.hosts[h]? = host?, w'.hosts[h]? = host?' at there ⊢
  cases there with
  | none => exact .ok () same
  | @some host host' alike =>
    have logged := oblivious alike.logs same.viewed
    simp only
    generalize m (host.log, w.observer) = r, m (host'.log, w'.observer) = r' at logged ⊢
    have put {log log' : TestLog} (logs : TestLog.Alike s log log') {host host' : Host κ}
        (alike : Host.Alike s host host') :
        Host.Alike s { host with log } { host' with log := log' } := by
      obtain ⟨scripts, _⟩ := alike
      exact ⟨scripts, logs⟩
    cases logged with
    | ok logs viewed => exact .ok () (same.put (put logs) viewed)
    | error f logs viewed => exact .error _ (same.put (put logs) viewed)

theorem pass : Oblivious s (Host.pass h : SimM κ μ Unit) :=
  common (fun ⟨_, _, _⟩ => rfl) fun w => onLog (TestLog.pass_oblivious w.now)

theorem failTest (reason : String) : Oblivious s (Host.failTest h reason : SimM κ μ Unit) :=
  common (fun ⟨_, _, _⟩ => rfl) fun w => onLog (TestLog.fail_oblivious w.now reason)

theorem write (text : String) (mote : Int) :
    Oblivious s (Host.write h text mote : SimM κ μ Unit) :=
  common (fun ⟨_, _, _⟩ => rfl) fun w => onLog (TestLog.write_oblivious w.now text mote)

theorem registerDeadline (after : Int) (action : Expiry κ) :
    Oblivious s (Host.registerDeadline h after action : SimM κ μ Unit) := by
  unfold Host.registerDeadline
  refine Parallel.reads fun {w w'} same => ?_
  have there := same.sameHosts.each h
  generalize w.hosts[h]? = host?, w'.hosts[h]? = host?' at there ⊢
  cases there with
  | none => exact Parallel.pure ()
  | some alike =>
    obtain ⟨scripts, logs⟩ := alike
    dsimp only
    have sets : Oblivious s (do
        Host.change h fun host => { host with deadlineSet := true }
        Simulation.schedule after (.expire h after action) : SimM κ μ Unit) :=
      Parallel.bind (change fun ⟨scripts, logs⟩ => ⟨scripts, logs⟩) fun _ => schedule _ _
    split
    · exact (Parallel.fail _).bind fun _ => sets
    · exact sets

theorem finish : Oblivious s (Host.finish h : SimM κ μ Unit) := by
  unfold Host.finish
  refine Parallel.bind (change fun ⟨scripts, logs⟩ => ⟨scripts, logs⟩) fun _ => ?_
  refine Parallel.reads fun {w w'} same => ?_
  have there := same.sameHosts.each h
  generalize w.hosts[h]? = host?, w'.hosts[h]? = host?' at there ⊢
  cases there with
  | none => exact Parallel.pure ()
  | some alike =>
    obtain ⟨_, ⟨_, _⟩⟩ := alike
    dsimp only
    split
    · exact (failTest _).bind fun _ => stop
    · exact stop

theorem handleFailure (f : Failure) : Oblivious s (Host.handleFailure h f : SimM κ μ Unit) := by
  unfold Host.handleFailure
  refine Parallel.bind (change fun ⟨scripts, logs⟩ => ⟨scripts, logs⟩) fun _ => ?_
  refine Parallel.reads fun {w w'} same => ?_
  have there := same.sameHosts.each h
  generalize w.hosts[h]? = host?, w'.hosts[h]? = host?' at there ⊢
  cases there with
  | none => exact Parallel.pure ()
  | some alike =>
    refine (Parallel.print _ _).bind fun _ => (failTest _).bind fun _ => ?_
    exact Parallel.bind (change fun ⟨scripts, logs⟩ => ⟨scripts, logs⟩) fun _ => stop

theorem guarded {m m' : SimM κ μ Bool} (parallel : Parallel s m m') :
    Parallel s (Host.guarded h m) (Host.guarded h m') := by
  intro w w' same
  have result := parallel w w' same
  unfold Host.guarded
  generalize m w = r, m' w' = r' at result ⊢
  cases result with
  | ok done same => exact .ok done same
  | error i same =>
    cases i with
    | exhausted => exact .error _ same
    | failure f => exact (handleFailure f _ _ same).bind fun _ _ _ same => .error _ same

theorem changeLinkFault (f : LinkFault → LinkFault) :
    Oblivious s (Host.changeLinkFault h f : SimM κ μ Unit) := by
  refine change fun {host host'} alike => ?_
  obtain ⟨script, log⟩ := host
  obtain ⟨scripts, logs⟩ := alike
  cases scripts with
  | linkFault timeout attached state => exact ⟨.linkFault .., logs⟩
  | reception timeout attached state placed => exact ⟨.reception _ _ _ placed, logs⟩
  | code c => exact ⟨.code c, logs⟩

theorem handleLinkFault (attached : Bool) (state : LinkFault) (mote : Int) (msg : String) :
    Oblivious s (Host.handleLinkFault h attached state mote msg : SimM κ μ Bool) := by
  have counts (f : LinkFault → LinkFault) : Oblivious s (do
      Host.changeLinkFault h f
      return false : SimM κ μ Bool) := (changeLinkFault f).bind fun _ => Parallel.pure false
  have ends : Oblivious s (do
      Host.pass h
      return true : SimM κ μ Bool) := pass.bind fun _ => Parallel.pure true
  have copies : Oblivious s (do
      Host.write h (msg ++ "\n") mote
      Host.changeLinkFault h fun s => { s with logged := s.logged + 1 }
      return false : SimM κ μ Bool) := (write _ _).bind fun _ => counts _
  unfold Host.handleLinkFault
  refine common (fun ⟨_, _, _⟩ => rfl) fun w => ?_
  cases Message.classify msg with
  | done =>
    cases attached with
    | false => exact (Parallel.fail _).bind fun _ => ends
    | true => exact ends
  | deteriorate | improve =>
    refine (Parallel.ofExcept _).bind fun between => ?_
    exact (changeLink _ between.1 between.2).bind fun _ => counts _
  | started =>
    dsimp only
    cases Message.startedEndpoint? w.config msg with
    | none => exact Parallel.pure false
    | some endpoint => exact counts _
  | other =>
    cases attached with
    | false => exact (Parallel.fail _).bind fun _ => copies
    | true => exact copies

/-- A reception is recorded or not. -/
theorem reportReception {trace trace' : Option Nat} (placed : s.place trace = s.place trace')
    (state : Reception) (counter mote : Int) :
    let report (trace : Option Nat) : SimM κ μ Bool := do
      let shown ← SimM.ofExcept (writeInt counter)
      let lost ← SimM.ofExcept (writeInt (state.record counter).lost)
      let last ← SimM.ofExcept (writeInt state.last)
      Host.write h (shown ++ " " ++ lost ++ " " ++ last ++ "\n") mote
      match trace with
      | none => return false
      | some id =>
        let now ← SimM.now
        SimM.observe (·.recordReception id
          ⟨now, counter, (state.record counter).lost, state.last, state.gap counter⟩)
        return false
    Parallel s (report trace) (report trace') := by
  intro report
  refine (Parallel.ofExcept _).bind fun shown => (Parallel.ofExcept _).bind fun lost => ?_
  refine (Parallel.ofExcept _).bind fun last => (write _ _).bind fun _ => ?_
  rintro w w' ⟨alike, radio, viewed⟩
  have recorded := Sight.view_recorded (Sight.records_reception
    ⟨w.now, counter, (state.record counter).lost, state.last, state.gap counter⟩) placed viewed
  cases trace <;> cases trace' <;> exact .ok false ⟨alike, radio, recorded⟩

theorem handleReception (timeout : Int) (attached : Bool) {trace trace' : Option Nat}
    (placed : s.place trace = s.place trace') (state : Reception) (mote : Int) (msg : String) :
    Parallel s (Host.handleReception h timeout attached trace state mote msg : SimM κ μ Bool)
      (Host.handleReception h timeout attached trace' state mote msg) := by
  unfold Host.handleReception
  refine Parallel.reads fun {w w'} same => ?_
  rw [same.config]
  refine (Parallel.ofExcept _).bind fun found => ?_
  cases found with
  | none => exact Parallel.pure false
  | some counter =>
    have reports := reportReception (κ := κ) (μ := μ) (h := h) placed state counter mote
    refine Parallel.bind (change fun ⟨_, logs⟩ => ⟨.reception _ _ _ placed, logs⟩) fun _ => ?_
    cases attached with
    | false => exact (Parallel.fail _).bind fun _ => reports
    | true => exact reports

variable (calls : ∀ c cue, Oblivious s (act c cue))

include calls

theorem setup : Oblivious s (Host.setup act h) := by
  unfold Host.setup
  refine Parallel.reads fun {w w'} same => ?_
  have there := same.sameHosts.each h
  generalize w.hosts[h]? = host?, w'.hosts[h]? = host?' at there ⊢
  cases there with
  | none => exact Parallel.pure false
  | @some host host' alike =>
    have scripts := alike.scripts
    dsimp only
    generalize host.script = script, host'.script = script' at scripts ⊢
    cases scripts with
    | linkFault timeout attached state =>
      refine Parallel.bind (change fun ⟨_, logs⟩ => ⟨.linkFault .., logs⟩) fun _ => ?_
      exact (registerDeadline _ _).bind fun _ => Parallel.pure false
    | reception timeout attached state placed =>
      refine Parallel.bind (change fun ⟨_, logs⟩ => ⟨.reception _ _ _ placed, logs⟩) fun _ => ?_
      exact (registerDeadline _ _).bind fun _ => Parallel.pure false
    | code c => exact calls c _

theorem start : Oblivious s (Host.start act h) :=
  (guarded (setup calls)).bind fun _ => Parallel.pure ()

theorem handle (mote : Int) (msg : String) : Oblivious s (Host.handle act h mote msg) := by
  unfold Host.handle
  refine Parallel.reads fun {w w'} same => ?_
  have there := same.sameHosts.each h
  generalize w.hosts[h]? = host?, w'.hosts[h]? = host?' at there ⊢
  cases there with
  | none => exact Parallel.pure false
  | @some host host' alike =>
    have scripts := alike.scripts
    dsimp only
    generalize host.script = script, host'.script = script' at scripts ⊢
    cases scripts with
    | linkFault timeout attached state => exact handleLinkFault attached state mote msg
    | reception timeout attached state placed =>
      exact handleReception timeout attached placed state mote msg
    | code c => exact calls c _

theorem hearLine (mote : Int) (msg : String) : Oblivious s (Host.hearLine act h mote msg) := by
  unfold Host.hearLine
  refine Parallel.reads fun {w w'} same => ?_
  have there := same.sameHosts.each h
  generalize w.hosts[h]? = host?, w'.hosts[h]? = host?' at there ⊢
  cases there with
  | none => exact Parallel.pure ()
  | some alike =>
    obtain ⟨_, _⟩ := alike
    dsimp only
    split
    · exact Parallel.pure ()
    · refine Parallel.bind (change fun ⟨scripts, logs⟩ => ⟨scripts, logs⟩) fun _ => ?_
      refine (guarded (handle calls mote msg)).bind fun done => ?_
      cases done with
      | false => exact Parallel.pure ()
      | true =>
        refine Parallel.reads fun {w w'} same => ?_
        have there := same.sameHosts.each h
        generalize w.hosts[h]? = host?, w'.hosts[h]? = host?' at there ⊢
        cases there with
        | none => exact Parallel.pure ()
        | some alike =>
          obtain ⟨_, _⟩ := alike
          dsimp only
          split
          · exact finish
          · exact Parallel.pure ()

theorem deadlineAction (action : Expiry κ) : Oblivious s (Host.deadlineAction act h action) := by
  unfold Host.deadlineAction
  cases action with
  | nothing => exact Parallel.pure false
  | code c => exact calls c _
  | builtIn =>
    refine Parallel.reads fun {w w'} same => ?_
    rw [same.config]
    have there := same.sameHosts.each h
    generalize w.hosts[h]? = host?, w'.hosts[h]? = host?' at there ⊢
    cases there with
    | none => exact Parallel.pure false
    | @some host host' alike =>
      have scripts := alike.scripts
      dsimp only
      generalize host.script = script, host'.script = script' at scripts ⊢
      cases scripts with
      | linkFault timeout attached state =>
        refine (Parallel.ofExcept _).bind fun time => ?_
        exact (failTest _).bind fun _ => Parallel.pure false
      | reception timeout attached state placed =>
        dsimp only
        split
        · exact pass.bind fun _ => Parallel.pure false
        · exact Parallel.pure false
      | code c => exact Parallel.pure false

theorem expire (after : Int) (action : Expiry κ) : Oblivious s (Host.expire act h after action) := by
  unfold Host.expire
  refine Parallel.reads fun {w w'} same => ?_
  have there := same.sameHosts.each h
  generalize w.hosts[h]? = host?, w'.hosts[h]? = host?' at there ⊢
  cases there with
  | none => exact Parallel.pure ()
  | some alike =>
    obtain ⟨_, _⟩ := alike
    dsimp only
    split
    · exact Parallel.pure ()
    · refine Parallel.bind (change fun ⟨scripts, logs⟩ => ⟨scripts, logs⟩) fun _ => ?_
      refine (Parallel.ofExcept _).bind fun time => (Parallel.print _ _).bind fun _ => ?_
      exact (guarded (deadlineAction calls action)).bind fun _ => finish

end Hosts

end Oblivious

end MoteTrial
