import MoteTrial.Proofs.Host.Hearing
import MoteTrial.Proofs.Session.Motes

/-! # Stable properties are kept by the simulation

Every operation of the simulation and of its hosts keeps a property that is `Stable`, as long as users'
code does, and as long as the lines that hosts hear are among those that the property bears.
-/

namespace MoteTrial.Session

open SimM Simulation

variable {κ μ : Type} {α β : Type}
variable {I : World κ μ → Prop} {E : Interrupt → World κ μ → Prop} {free : Nat → Prop}
variable {lines : Int → String → Prop}

/-- An event that is not refused is registered. -/
theorem Keeps.schedule (failed : ∀ {w}, I w → ∀ f, E (.failure f) w) {delay : Int} {event : Event κ}
    (registers : ∀ {w}, I w → 0 ≤ delay → I (w.register (w.now + delay) event)) :
    Keeps I E (Simulation.schedule delay event) := by
  intro w kept
  by_cases negative : delay < 0
  · rw [schedule_past negative]
    exact failed kept _
  · have ahead : 0 ≤ delay := by omega
    rw [schedule_apply ahead]
    exact registers kept ahead

namespace Paced

theorem failed (paced : Paced I E lines) {w : World κ μ} (kept : I w) (f : Failure) :
    E (.failure f) w := paced.interrupted kept (.failure f)

theorem fails (paced : Paced I E lines) (f : Failure) : Keeps I E (SimM.fail f : SimM κ μ α) :=
  Keeps.fails paced.failed f

theorem ofExcept (paced : Paced I E lines) (result : Except Failure α) :
    Keeps I E (SimM.ofExcept result : SimM κ μ α) :=
  Keeps.ofExcept paced.failed result

theorem schedule (paced : Paced I E lines) (delay : Int) (event : Event κ)
    (said : Said lines event) : Keeps I E (Simulation.schedule delay event) :=
  Keeps.schedule paced.failed fun kept _ => paced.registered kept (by omega) said

theorem scheduleAt (paced : Paced I E lines) (time : Int) (event : Event κ)
    (said : Said lines event) : Keeps I E (Simulation.scheduleAt time event) := by
  intro w kept
  rw [scheduleAt_apply]
  exact paced.registered kept (by omega) said

end Paced

theorem Stable.carries (stable : Stable I E free lines) : Carries I E :=
  ⟨stable.aside, fun kept f => stable.interrupted kept (.failure f)⟩

section Firmware

variable {hear : Hearing κ μ}

/-- Listeners that bear a line of a mote. -/
def Hears (hear : Hearing κ μ) (I : World κ μ → Prop) (E : Interrupt → World κ μ → Prop)
    (lines : Int → String → Prop) : Prop :=
  ∀ l mote msg, lines mote msg → Keeps I E (hear l mote msg)

theorem Hears.tell (hears : Hears hear I E lines) {mote : Int} {msg : String} (said : lines mote msg)
    (listeners : List (Listener κ)) : Keeps I E (Simulation.tell hear mote msg listeners) := by
  induction listeners with
  | nil => exact Keeps.pure _
  | cons listener rest ih => exact (hears listener mote msg said).bind fun _ => ih

theorem Hears.emit (hears : Hears hear I E lines) {mote : Int} {msg : String}
    (said : lines mote msg) : Keeps I E (Simulation.emit hear mote msg) :=
  Keeps.reads fun w => hears.tell said w.listeners

theorem Paced.speaks (paced : Paced I E lines) (hears : Hears hear I E lines) : Speaks hear I E :=
  fun {w} _ _ kept there voiced => hears.emit (paced.voiced kept there voiced) w kept

theorem Paced.sets (paced : Paced I E lines) : Sets I I E where
  rests kept := kept
  starts _ kept id slot := paced.schedule _ (.tick id slot) trivial _ kept
  rearms kept _ id slot := paced.schedule _ (.tick id slot) trivial _ kept

end Firmware

section Hosts

variable {act : Behaviour κ μ} {h : Nat}

/-- A failure of a part of a script is dealt with and goes on. -/
theorem Kept.guarded {E' : Interrupt → World κ μ → Prop} {m : SimM κ μ Bool} {w : World κ μ}
    (part : Kept I E' (m w)) (exhausted : ∀ w, E' .exhausted w → E .exhausted w)
    (deals : ∀ f w, E' (.failure f) w → Kept (E (.failure f)) E (Host.handleFailure h f w)) :
    Kept I E (Host.guarded h m w) := by
  unfold Host.guarded
  cases run : m w with
  | ok done w' =>
    rw [run] at part
    exact part
  | error i w' =>
    rw [run] at part
    cases i with
    | exhausted => exact exhausted w' part
    | failure f => exact (deals f w' part).bind fun _ _ ends => ends

theorem Keeps.guarded {E' : Interrupt → World κ μ → Prop} {m : SimM κ μ Bool} (part : Keeps I E' m)
    (exhausted : ∀ w, E' .exhausted w → E .exhausted w)
    (deals : ∀ f w, E' (.failure f) w → Kept (E (.failure f)) E (Host.handleFailure h f w)) :
    Keeps I E (Host.guarded h m) := fun w kept => (part w kept).guarded exhausted deals

/-- An unfinished host that hears a line keeps what its script keeps, if the end of the test does. -/
theorem Kept.hearLine {host : Host κ} {mote : Int} {msg : String} {w : World κ μ}
    (present : w.hosts[h]? = some host) (listening : host.finished = false)
    (handled : Kept I E
      (Host.guarded h (Host.handle act h mote msg) (w.setHost h (host.facing mote msg))))
    (finish : Keeps I E (Host.finish h : SimM κ μ Unit)) :
    Kept I E (Host.hearLine act h mote msg w) := by
  rw [Host.hearLine_listening act present listening]
  refine handled.bind fun done => ?_
  cases done with
  | false => exact Keeps.pure _
  | true =>
    refine Keeps.reads fun w => ?_
    split
    · exact Keeps.pure _
    · split
      · exact finish
      · exact Keeps.pure _

/-- The link-fault script keeps what its operations keep; a test is passed only where it is done. -/
theorem Keeps.handleLinkFault {attached : Bool} {state : LinkFault} {mote : Int} {msg : String}
    (failed : ∀ {w}, I w → ∀ f, E (.failure f) w)
    (changes : ∀ kind a b, Keeps I E (Simulation.changeLink kind a b : SimM κ μ Unit))
    (writes : ∀ text mote, Keeps I E (Host.write h text mote : SimM κ μ Unit))
    (relinks : ∀ f, Keeps I E (Host.changeLinkFault h f : SimM κ μ Unit))
    (passes : Message.classify msg = .done → Keeps I E (Host.pass h : SimM κ μ Unit)) :
    Keeps I E (Host.handleLinkFault h attached state mote msg : SimM κ μ Bool) := by
  have counts (f : LinkFault → LinkFault) : Keeps I E (do
      Host.changeLinkFault h f
      return false : SimM κ μ Bool) := (relinks f).bind fun _ => Keeps.pure _
  unfold Host.handleLinkFault
  refine Keeps.reads fun w => ?_
  cases kind : Message.classify msg with
  | done =>
    cases attached with
    | false => exact Keeps.fails failed _
    | true => exact (passes kind).bind fun _ => Keeps.pure _
  | deteriorate | improve =>
    exact (Keeps.ofExcept failed _).bind fun ends => (changes _ ends.1 ends.2).bind fun _ => counts _
  | started =>
    dsimp only
    cases Message.startedEndpoint? w.config msg with
    | none => exact Keeps.pure _
    | some endpoint => exact counts _
  | other =>
    cases attached with
    | false => exact Keeps.fails failed _
    | true => exact (writes _ _).bind fun _ => counts _

/-- The reception script keeps what its operations keep. -/
theorem Keeps.handleReception {timeout : Int} {attached : Bool} {trace : Option Nat}
    {state : Reception} {mote : Int} {msg : String} (failed : ∀ {w}, I w → ∀ f, E (.failure f) w)
    (counts : ∀ state, Keeps I E (Host.change h fun host =>
      { host with script := .reception timeout attached trace state } : SimM κ μ Unit))
    (writes : ∀ text mote, Keeps I E (Host.write h text mote : SimM κ μ Unit))
    (records : ∀ id ∈ trace, ∀ row,
      Keeps I E (SimM.observe (·.recordReception id row) : SimM κ μ Unit)) :
    Keeps I E (Host.handleReception h timeout attached trace state mote msg : SimM κ μ Bool) := by
  unfold Host.handleReception
  refine Keeps.reads fun w => (Keeps.ofExcept failed _).bind fun found => ?_
  cases found with
  | none => exact Keeps.pure _
  | some counter =>
    refine (counts _).bind fun _ => ?_
    cases attached with
    | false => exact Keeps.fails failed _
    | true =>
      refine (Keeps.ofExcept failed _).bind fun _ => (Keeps.ofExcept failed _).bind fun _ => ?_
      refine (Keeps.ofExcept failed _).bind fun _ => (writes _ _).bind fun _ => ?_
      cases trace with
      | none => exact Keeps.pure _
      | some id => exact Keeps.reads fun w => (records id rfl _).bind fun _ => Keeps.pure _

/-- What a script does at its deadline keeps what the end of its test and users' code keep. -/
theorem Keeps.deadlineAction {action : Expiry κ} (failed : ∀ {w}, I w → ∀ f, E (.failure f) w)
    (calls : ∀ c, action = .code c → Keeps I E (act c (.expired h)))
    (failTest : ∀ reason, Keeps I E (Host.failTest h reason : SimM κ μ Unit))
    (pass : Keeps I E (Host.pass h : SimM κ μ Unit)) :
    Keeps I E (Host.deadlineAction act h action) := by
  unfold Host.deadlineAction
  cases action with
  | nothing => exact Keeps.pure _
  | code c => exact calls c rfl
  | builtIn =>
    refine Keeps.reads fun w => ?_
    split
    · exact Keeps.pure _
    · split
      · refine (Keeps.ofExcept failed _).bind fun _ => ?_
        exact (failTest _).bind fun _ => Keeps.pure _
      · dsimp only
        split
        · exact pass.bind fun _ => Keeps.pure _
        · exact Keeps.pure _
      · exact Keeps.pure _

/-- Registering a deadline keeps what noting it and scheduling its event keep. -/
theorem Keeps.registerDeadline (failed : ∀ {w}, I w → ∀ f, E (.failure f) w) {after : Int}
    {action : Expiry κ}
    (notes : Keeps I E (Host.change h fun host => { host with deadlineSet := true } : SimM κ μ Unit))
    (sets : Keeps I E (Simulation.schedule after (.expire h after action))) :
    Keeps I E (Host.registerDeadline h after action : SimM κ μ Unit) := by
  unfold Host.registerDeadline
  refine Keeps.reads fun w => ?_
  split
  · exact Keeps.pure _
  · split
    · exact Keeps.fails failed _
    · exact notes.bind fun _ => sets

/-- A property bears the changes of a host that go with its lines and its deadline: those that leave
its script and its test alone, what it prints, and its end. -/
structure Bears (I : World κ μ → Prop) (E : Interrupt → World κ μ → Prop) (h : Nat) : Prop where
  prints : ∀ text, Keeps I E (SimM.print text : SimM κ μ Unit)
  change : ∀ {f : Host κ → Host κ}, (∀ host, (f host).script = host.script ∧
    (f host).log = host.log ∧ (f host).finished = host.finished) →
    Keeps I E (Host.change h f : SimM κ μ Unit)
  finish : Keeps I E (Host.finish h : SimM κ μ Unit)

theorem Closes.bears (closes : Closes I E h) : Bears I E h where
  prints := closes.prints
  change same := closes.change fun host => ⟨(same host).1, (same host).2.1⟩
  finish := closes.finish

namespace Bears

theorem registerDeadline (bears : Bears I E h) (failed : ∀ {w}, I w → ∀ f, E (.failure f) w)
    {after : Int} {action : Expiry κ}
    (sets : Keeps I E (Simulation.schedule after (.expire h after action))) :
    Keeps I E (Host.registerDeadline h after action : SimM κ μ Unit) :=
  Keeps.registerDeadline failed (bears.change fun _ => ⟨rfl, rfl, rfl⟩) sets

theorem hearLine (bears : Bears I E h) {mote : Int} {msg : String}
    (handles : Keeps I E (Host.guarded h (Host.handle act h mote msg))) :
    Keeps I E (Host.hearLine act h mote msg) := by
  unfold Host.hearLine
  refine Keeps.reads fun w => ?_
  split
  · exact Keeps.pure _
  · split
    · exact Keeps.pure _
    · refine Keeps.bind (bears.change fun _ => ⟨rfl, rfl, rfl⟩) fun _ => ?_
      refine handles.bind fun done => ?_
      split
      · refine Keeps.reads fun w => ?_
        split
        · exact Keeps.pure _
        · split
          · exact bears.finish
          · exact Keeps.pure _
      · exact Keeps.pure _

theorem expire (bears : Bears I E h) (failed : ∀ {w}, I w → ∀ f, E (.failure f) w)
    {action : Expiry κ} (acts : Keeps I E (Host.guarded h (Host.deadlineAction act h action)))
    (after : Int) :
    Keeps I E (Host.expire act h after action) := by
  unfold Host.expire
  refine Keeps.reads fun w => ?_
  split
  · exact Keeps.pure _
  · split
    · exact Keeps.pure _
    · refine Keeps.bind (bears.change fun _ => ⟨rfl, rfl, rfl⟩) fun _ => ?_
      refine (Keeps.ofExcept failed _).bind fun _ => (bears.prints _).bind fun _ => ?_
      exact acts.bind fun _ => bears.finish

end Bears

theorem within_relinked {f : LinkFault → LinkFault} (first : ∀ s, (f s).first = s.first)
    (third : ∀ s, (f s).third = s.third) (host : Host κ) :
    Within (relinked f host).script host.script := by
  intro endpoint id held
  unfold relinked at held
  split at held
  · rename_i timeout attached state script
    rw [script]
    cases endpoint with
    | first => exact (first state).symm.trans held
    | third => exact (third state).symm.trans held
  · exact held

namespace Stable

theorem bears (stable : Stable I E free lines) (exempt : free h) : Bears I E h where
  prints := stable.print
  change same := stable.change exempt _ fun host => (same host).1
  finish := stable.finish exempt

theorem guarded (stable : Stable I E free lines) (exempt : free h) {m : SimM κ μ Bool}
    (part : Keeps I E m) : Keeps I E (Host.guarded h m) :=
  part.guarded (fun _ ends => ends) fun f => (stable.failing f).handleFailure exempt f

theorem registerDeadline (stable : Stable I E free lines) (exempt : free h) (after : Int)
    (action : Expiry κ) : Keeps I E (Host.registerDeadline h after action : SimM κ μ Unit) :=
  (stable.bears exempt).registerDeadline stable.toPaced.failed (stable.schedule _ _ trivial)

/-- Users' code that keeps a property wherever it may be called. -/
def Calls (I : World κ μ → Prop) (E : Interrupt → World κ μ → Prop) (free : Nat → Prop)
    (act : Behaviour κ μ) : Prop :=
  ∀ c cue, (∀ h ∈ host? cue, free h) → Keeps I E (act c cue)

theorem setup (stable : Stable I E free lines) (calls : Calls I E free act) (exempt : free h) :
    Keeps I E (Host.setup act h) := by
  have registers (timeout : Int) : Keeps I E (do
      Host.registerDeadline h timeout .builtIn
      return false : SimM κ μ Bool) :=
    (stable.registerDeadline exempt _ _).bind fun _ => Keeps.pure _
  unfold Host.setup
  refine Keeps.seen fun w kept => ?_
  cases present : w.hosts[h]? with
  | none => exact kept
  | some host =>
    dsimp only
    cases script : host.script with
    | linkFault timeout attached state =>
      refine Kept.bind (stable.rescripted exempt kept _ ?_) fun _ => registers timeout
      intro host' found endpoint id held
      rw [Option.some.inj (found.symm.trans present), script]
      exact held
    | reception timeout attached trace state =>
      exact Kept.bind (stable.rescripted exempt kept _ fun _ _ _ _ => nofun)
        fun _ => registers timeout
    | code c => exact calls c (.setup h) (by simpa [host?] using exempt) w kept

theorem start (stable : Stable I E free lines) (calls : Calls I E free act) (exempt : free h) :
    Keeps I E (Host.start act h) :=
  (stable.guarded exempt (stable.setup calls exempt)).bind fun _ => Keeps.pure _

theorem handleLinkFault (stable : Stable I E free lines) (exempt : free h) (attached : Bool)
    (state : LinkFault) {mote : Int} {msg : String} (said : lines mote msg) :
    Keeps I E (Host.handleLinkFault h attached state mote msg : SimM κ μ Bool) := by
  have counts {f : LinkFault → LinkFault} (first : ∀ s, (f s).first = s.first)
      (third : ∀ s, (f s).third = s.third) :
      Keeps I E (do
        Host.changeLinkFault h f
        return false : SimM κ μ Bool) :=
    Keeps.bind (fun w kept => stable.rescripted exempt kept _ fun host _ =>
      within_relinked first third host) fun _ => Keeps.pure _
  unfold Host.handleLinkFault
  refine Keeps.seen fun w kept => ?_
  cases kind : Message.classify msg with
  | done =>
    cases attached with
    | false => exact stable.interrupted kept _
    | true => exact (stable.pass exempt w kept).bind fun _ _ kept => kept
  | deteriorate | improve =>
    refine (stable.ofExcept _ w kept).bind fun ends w kept => ?_
    refine (stable.carries.changeLink _ ends.1 ends.2 w kept).bind fun _ => ?_
    exact counts (fun _ => rfl) fun _ => rfl
  | started =>
    cases found : Message.startedEndpoint? w.config msg with
    | none =>
      dsimp only
      exact kept
    | some endpoint =>
      dsimp only
      exact Kept.bind (stable.bound exempt kept said kind found) fun _ _ kept => kept
  | other =>
    cases attached with
    | false => exact stable.interrupted kept _
    | true =>
      exact (stable.write exempt _ _ w kept).bind fun _ => counts (fun _ => rfl) fun _ => rfl

theorem handleReception (stable : Stable I E free lines) (exempt : free h) (timeout : Int)
    (attached : Bool) (trace : Option Nat) (state : Reception) (mote : Int) (msg : String) :
    Keeps I E (Host.handleReception h timeout attached trace state mote msg : SimM κ μ Bool) := by
  refine Keeps.handleReception stable.carries.failed (fun _ => ?_) (stable.write exempt)
    fun _ _ _ => stable.carries.observe _
  exact fun w kept => stable.rescripted exempt kept _ fun _ _ _ _ => nofun

theorem handle (stable : Stable I E free lines) (calls : Calls I E free act) (exempt : free h)
    {mote : Int} {msg : String} (said : lines mote msg) :
    Keeps I E (Host.handle act h mote msg) := by
  unfold Host.handle
  refine Keeps.reads fun w => ?_
  split
  · exact Keeps.pure _
  · split
    · exact stable.handleLinkFault exempt _ _ said
    · exact stable.handleReception exempt _ _ _ _ _ _
    · exact calls _ _ (by simpa [host?] using exempt)

theorem hearLine (stable : Stable I E free lines) (calls : Calls I E free act) (exempt : free h)
    {mote : Int} {msg : String} (said : lines mote msg) :
    Keeps I E (Host.hearLine act h mote msg) :=
  (stable.bears exempt).hearLine (stable.guarded exempt (stable.handle calls exempt said))

theorem deadlineAction (stable : Stable I E free lines) (calls : Calls I E free act) (exempt : free h)
    (action : Expiry κ) : Keeps I E (Host.deadlineAction act h action) := by
  refine Keeps.deadlineAction stable.toPaced.failed (fun c _ => ?_) (stable.failTest exempt)
    (stable.pass exempt)
  exact calls c (.expired h) (by simpa [host?] using exempt)

theorem expire (stable : Stable I E free lines) (calls : Calls I E free act) (exempt : free h)
    (after : Int) (action : Expiry κ) : Keeps I E (Host.expire act h after action) :=
  (stable.bears exempt).expire stable.toPaced.failed
    (stable.guarded exempt (stable.deadlineAction calls exempt action)) after

end Stable

end Hosts

section Loop

variable {fire : Event κ → SimM κ μ Unit}

namespace Paced

theorem step (paced : Paced I E lines)
    (fires : ∀ event, Said lines event → Keeps I E (fire event)) : Keeps I E (Simulation.step fire) := by
  intro w kept
  cases running : w.scheduler.stopped with
  | true =>
    rw [step_stopped running]
    exact kept
  | false =>
    cases next : w.scheduler.next? with
    | none =>
      rw [step_idle next]
      exact kept
    | some found =>
      obtain ⟨a, s⟩ := found
      have started := paced.taken kept running (Scheduler.takes_of_next? next)
      have pending : a ∈ w.scheduler.pending := by
        simp [(Scheduler.takes_of_next? next).pending]
      have result := fires a.event (paced.pending kept a pending) _ started
      cases fired : fire a.event { w with scheduler := s } with
      | ok u w' =>
        rw [fired] at result
        rw [step_ok running next fired]
        exact paced.counted result
      | error i w' =>
        rw [fired] at result
        rw [step_error running next fired]
        exact result

/-- A run keeps a property that it may be paused with. -/
theorem run (paced : Paced I E lines)
    (fires : ∀ event, Said lines event → Keeps I E (fire event))
    {bound : Option Int} (pauses : ∀ limit ∈ bound, ∀ {w : World κ μ} {due : Int}, I w →
      w.scheduler.nextDue? = some due → limit < due →
      I { w with scheduler := w.scheduler.setNow limit }) (fuel : Nat) :
    Keeps I E (Simulation.run fire bound fuel) := by
  induction fuel with
  | zero => exact fun w kept => paced.interrupted kept _
  | succ fuel ih =>
    intro w kept
    cases running : w.scheduler.stopped with
    | true =>
      rw [run_stopped running]
      exact kept
    | false =>
      cases next : w.scheduler.nextDue? with
      | none =>
        rw [run_idle next]
        exact kept
      | some due =>
        by_cases soon : ∀ limit ∈ bound, due ≤ limit
        · rw [run_fires running next soon]
          exact (paced.step fires w kept).bind fun _ => ih
        · obtain ⟨limit, bounded, later⟩ : ∃ limit, bound = some limit ∧ limit < due := by
            simpa using soon
          subst bounded
          rw [run_paused running next later]
          exact pauses limit rfl kept next later

end Paced

end Loop

section Events

variable {act : Behaviour κ μ}

/-- Events keep a property that goes well with motes and with time, if listeners and hosts do. -/
theorem Paced.fire (paced : Paced I E lines) (moves : Moves I E)
    (hears : Hears (Simulation.hear act) I E lines)
    (expiring : ∀ h after action, Keeps I E (Host.expire act h after action))
    (calls : ∀ c, Keeps I E (act c .due)) (event : Event κ) (said : Said lines event) :
    Keeps I E (Simulation.fire act event) := by
  cases event with
  | boot mote =>
    exact fun w kept => moves.boot paced.sets mote kept fun there =>
      paced.speaks hears kept there .started
  | tick mote slot =>
    exact fun w kept => moves.tick (paced.speaks hears) paced.sets mote slot kept
  | line mote msg => exact hears.emit said
  | expire h after action => exact expiring h after action
  | task c => exact (calls c).bind fun _ => Keeps.pure _

namespace Stable

theorem hears (calls : Calls I E free act)
    (hearing : ∀ h mote msg, lines mote msg → Keeps I E (Host.hearLine act h mote msg)) :
    Hears (Simulation.hear act) I E lines := by
  intro l mote msg said
  cases l with
  | host h => exact hearing h mote msg said
  | code c => exact (calls c (.heard mote msg) nofun).bind fun _ => Keeps.pure _

theorem fire (stable : Stable I E free lines) (calls : Calls I E free act)
    (hearing : ∀ h mote msg, lines mote msg → Keeps I E (Host.hearLine act h mote msg))
    (expiring : ∀ h after action, Keeps I E (Host.expire act h after action)) (event : Event κ)
    (said : Said lines event) : Keeps I E (Simulation.fire act event) :=
  stable.toPaced.fire stable.carries.moves (hears calls hearing) expiring
    (fun c => calls c .due nofun) event said

section Free

variable (stable : Stable I E (fun _ => True) lines) (calls : ∀ c cue, Keeps I E (act c cue))

include stable calls

theorem hears_any : Hears (Simulation.hear act) I E lines := by
  have called : Calls I E (fun _ => True) act := fun c cue _ => calls c cue
  exact hears called fun _ _ _ said => stable.hearLine called trivial said

theorem fire_any (event : Event κ) (said : Said lines event) :
    Keeps I E (Simulation.fire act event) := by
  have called : Calls I E (fun _ => True) act := fun c cue _ => calls c cue
  exact stable.fire called (fun _ _ _ said => stable.hearLine called trivial said)
    (fun _ after action => stable.expire called trivial after action) event said

end Free

end Stable

end Events

section Code

/-- Users' code whose operations are allowed: the lines that it has motes log, now or later, the scripts
that it attaches, and the changes that it makes. -/
def Program.Abides {μ : Type} (lines : Int → String → Prop) (attaches : Script κ → Prop)
    (alters : (World κ (Diary μ) → World κ (Diary μ)) → Prop) : Program κ μ → Prop
  | .answer _ | .raise _ => True
  | .schedule _ event next | .scheduleAt _ event next =>
    Said lines event ∧ next.Abides lines attaches alters
  | .emit mote msg next => lines mote msg ∧ next.Abides lines attaches alters
  | .stop next | .start _ next | .registerDeadline _ _ _ next | .pass _ next | .failTest _ _ next
  | .write _ _ _ next => next.Abides lines attaches alters
  | .step next => ∀ fired, (next fired).Abides lines attaches alters
  | .run _ next => ∀ time, (next time).Abides lines attaches alters
  | .attach script _ next => attaches script ∧ ∀ h, (next h).Abides lines attaches alters
  | .alter change next => alters change ∧ next.Abides lines attaches alters
  | .consult next => ∀ w, (next w).Abides lines attaches alters

theorem Program.abides_any {μ : Type} (p : Program κ μ) :
    p.Abides (fun _ _ => True) (fun _ => True) fun _ => True := by
  induction p with
  | answer _ | raise _ => trivial
  | schedule _ event next ih | scheduleAt _ event next ih => exact ⟨said_any event, ih⟩
  | emit _ _ next ih | alter _ next ih => exact ⟨trivial, ih⟩
  | stop next ih | start _ next ih | registerDeadline _ _ _ next ih | pass _ next ih
  | failTest _ _ next ih | write _ _ _ next ih => exact ih
  | step next ih | run _ next ih | consult next ih => exact ih
  | attach _ _ next ih => exact ⟨trivial, ih⟩

variable {I : World κ (Diary μ) → Prop} {E : Interrupt → World κ (Diary μ) → Prop}
  {act : Behaviour κ (Diary μ)} {fuel : Nat} {attaches : Script κ → Prop}
  {alters : (World κ (Diary μ) → World κ (Diary μ)) → Prop}

/-- Each allowed operation of users' code keeps a property. -/
structure Operates (act : Behaviour κ (Diary μ)) (fuel : Nat) (I : World κ (Diary μ) → Prop)
    (E : Interrupt → World κ (Diary μ) → Prop) (lines : Int → String → Prop)
    (attaches : Script κ → Prop) (alters : (World κ (Diary μ) → World κ (Diary μ)) → Prop) :
    Prop where
  raises : ∀ f, Keeps I E (SimM.fail f : SimM κ (Diary μ) Bool)
  schedules : ∀ delay event, Said lines event → Keeps I E (Simulation.schedule delay event)
  schedulesAt : ∀ time event, Said lines event → Keeps I E (Simulation.scheduleAt time event)
  stops : Keeps I E Simulation.stop
  emits : ∀ mote msg, lines mote msg → Keeps I E (Simulation.emit (Simulation.hear act) mote msg)
  steps : Keeps I E (Simulation.step (Simulation.fire act))
  runs : ∀ bound, Keeps I E (do
    Diary.noteBound bound
    Simulation.run (Simulation.fire act) bound fuel)
  attaches : ∀ script log, attaches script → Keeps I E (Host.attach script log)
  starts : ∀ h, Keeps I E (Host.start act h)
  registers : ∀ h after action, Keeps I E (Host.registerDeadline h after action)
  passes : ∀ h, Keeps I E (do
    Diary.notePass h
    Host.pass h)
  failsTest : ∀ h reason, Keeps I E (Host.failTest h reason)
  writes : ∀ h text mote, Keeps I E (Host.write h text mote)
  alters : ∀ change, alters change → Keeps I E (modify (altered change))

/-- Users' code keeps what each of its operations keeps. -/
theorem Operates.exec (operates : Operates act fuel I E lines attaches alters) (p : Program κ μ)
    (abides : p.Abides lines attaches alters) : Keeps I E (p.exec act fuel) := by
  induction p with
  | answer done => exact Keeps.pure _
  | raise f => exact operates.raises f
  | schedule delay event next ih =>
    exact (operates.schedules delay event abides.1).bind fun _ => ih abides.2
  | scheduleAt time event next ih =>
    exact (operates.schedulesAt time event abides.1).bind fun _ => ih abides.2
  | stop next ih => exact operates.stops.bind fun _ => ih abides
  | emit mote msg next ih => exact (operates.emits mote msg abides.1).bind fun _ => ih abides.2
  | step next ih => exact operates.steps.bind fun fired => ih fired (abides fired)
  | run bound next ih =>
    rw [Program.exec, ← bind_assoc]
    exact (operates.runs bound).bind fun time => ih time (abides time)
  | attach script log next ih =>
    exact (operates.attaches script log abides.1).bind fun h => ih h (abides.2 h)
  | start h next ih => exact (operates.starts h).bind fun _ => ih abides
  | registerDeadline h after action next ih =>
    exact (operates.registers h after action).bind fun _ => ih abides
  | pass h next ih =>
    rw [Program.exec, ← bind_assoc]
    exact (operates.passes h).bind fun _ => ih abides
  | failTest h reason next ih => exact (operates.failsTest h reason).bind fun _ => ih abides
  | write h text mote next ih => exact (operates.writes h text mote).bind fun _ => ih abides
  | alter change next ih => exact (operates.alters change abides.1).bind fun _ => ih abides.2
  | consult next ih => exact Keeps.reads fun w => ih w (abides w)

/-- Where no host is exempted, it is enough that runs, new hosts, notes and changes are borne. -/
theorem Stable.operates (stable : Stable I E (fun _ => True) lines)
    (calls : ∀ c cue, Keeps I E (act c cue))
    (runs : ∀ bound, Keeps I E (do
      Diary.noteBound bound
      Simulation.run (Simulation.fire act) bound fuel))
    (attached : ∀ script log, attaches script → Keeps I E (Host.attach script log))
    (noted : ∀ h, Keeps I E (Diary.notePass h))
    (altered : ∀ change, alters change → Keeps I E (modify (Session.altered change))) :
    Operates act fuel I E lines attaches alters where
  raises := stable.fails
  schedules := stable.schedule
  schedulesAt := stable.scheduleAt
  stops := stable.stop
  emits _ _ said := (stable.hears_any calls).emit said
  steps := stable.step (stable.fire_any calls)
  runs := runs
  attaches := attached
  starts _ := stable.start (fun c cue _ => calls c cue) trivial
  registers _ := stable.registerDeadline trivial
  passes h := (noted h).bind fun _ => stable.pass trivial
  failsTest _ := stable.failTest trivial
  writes _ := stable.write trivial
  alters := altered

end Code

end MoteTrial.Session
