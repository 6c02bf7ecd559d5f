import MoteTrial.Proofs.Deadline.Script
import MoteTrial.Proofs.Host.TestRun
import MoteTrial.Proofs.Network.Setup
import MoteTrial.Proofs.Schedule.Countdown
import MoteTrial.Proofs.Text.FirmwareLines

/-! # Every test with a built-in script ends by its deadline

The deadline is registered once all boots are, so that of two events due at once a timer of a mote comes
after it. It cannot be lost, and the timers before it are set ten seconds apart at least; so the run is
over after a number of events that the motes and the deadline bound, whatever the firmware does.
-/

namespace MoteTrial.Deadline

open SimM Simulation Session Scenario

variable {κ μ : Type}

/-- Parameters with the usual timing of boots and of clients. -/
structure Timed (c : Config) : Prop where
  boots : c.bootInterval = Config.standard.bootInterval
  starts : c.clientStartDelay = Config.standard.clientStartDelay
  sends : c.clientSendInterval = Config.standard.clientSendInterval

/-- Whether a line may still clear a test at a time: before the deadline, or at it if the line with
which motes start would. -/
def Early (c : Config) (deadline time : Int) : Prop :=
  time < deadline ∨ Text.contains c.keywordStarted Config.standard.keywordDone = true

section Queue

variable {deadline : Int} {a e : Appointment (Event κ)}
  {queue queue' : List (Appointment (Event κ))}

/-- The events of a test that are still to come, with the expiry of the deadline among them. Boots are
registered before the deadline, timers after it. -/
structure Awaits (deadline : Int) (e : Appointment (Event κ)) (queue : List (Appointment (Event κ))) :
    Prop where
  event : e.event = .expire 0 deadline .builtIn
  due : e.due = deadline
  member : e ∈ queue
  others : ∀ a ∈ queue, a ≠ e →
    (∃ id, a.event = .boot id) ∨ (∃ id slot, a.event = .tick id slot) ∧ e.serial < a.serial

/-- What an event of a mote may add to the events still to come: a timer, ten seconds later at least. -/
inductive Follows (time : Int) (queue : List (Appointment (Event κ))) :
    List (Appointment (Event κ)) → Prop where
  | same : Follows time queue queue
  | timer {id : Int} {slot serial : Nat} {due : Int} (later : time + 10000 ≤ due)
    (fresh : ∀ b ∈ queue, b.serial < serial) :
    Follows time queue (Scheduler.insert ⟨due, serial, .tick id slot⟩ queue)

/-- Once another event has been taken, the deadline is still awaited, whatever that event adds. -/
theorem Awaits.follows (awaits : Awaits deadline e (a :: queue)) (other : e ≠ a)
    (follows : Follows a.due queue queue') : Awaits deadline e queue' := by
  have member : e ∈ queue := (List.mem_cons.mp awaits.member).resolve_left other
  have others := fun b pending => awaits.others b (List.mem_cons_of_mem a pending)
  cases follows with
  | same => exact ⟨awaits.event, awaits.due, member, others⟩
  | timer later fresh =>
    refine ⟨awaits.event, awaits.due, Scheduler.mem_insert.mpr (.inr member), fun b pending => ?_⟩
    rcases Scheduler.mem_insert.mp pending with rfl | pending
    · exact fun _ => .inr ⟨⟨_, _, rfl⟩, fresh e member⟩
    · exact others b pending

/-- A timer is due before the deadline, a boot at the deadline at the latest. -/
theorem Awaits.timely (awaits : Awaits deadline e (a :: queue)) (other : e ≠ a)
    (before : ∀ b ∈ queue, a.Before b) :
    (∃ id, a.event = .boot id) ∧ a.due ≤ deadline ∨
      (∃ id slot, a.event = .tick id slot) ∧ a.due < deadline := by
  have member : e ∈ queue := (List.mem_cons.mp awaits.member).resolve_left other
  have due := awaits.due
  rcases awaits.others a List.mem_cons_self other.symm with boot | ⟨timer, later⟩
  · refine .inl ⟨boot, ?_⟩
    rcases before e member with sooner | ⟨same, _⟩
    · omega
    · omega
  · refine .inr ⟨timer, ?_⟩
    rcases before e member with sooner | ⟨_, earlier⟩
    · omega
    · omega

/-- What an event adds weighs less than the event itself did. -/
theorem total_follows (timely : a.due ≤ deadline) (follows : Follows a.due queue queue') :
    Countdown.total deadline queue' < Countdown.total deadline (a :: queue) := by
  rw [Countdown.total_cons]
  cases follows with
  | same =>
    have := Countdown.weight_pos timely
    omega
  | timer later fresh =>
    rw [Countdown.total_insert]
    have lighter := Countdown.weight_lt timely later
    dsimp only
    omega

/-- No event that is not past weighs more than the time up to the deadline. -/
theorem total_le (nonneg : ∀ b ∈ queue, 0 ≤ b.due) :
    Countdown.total deadline queue ≤ queue.length * (deadline.toNat / 10000 + 1) := by
  induction queue with
  | nil => exact Nat.zero_le _
  | cons b rest ih =>
    have first := nonneg b List.mem_cons_self
    have others := ih fun d member => nonneg d (List.mem_cons_of_mem _ member)
    have each : Countdown.weight deadline b.due ≤ deadline.toNat / 10000 + 1 := by
      simp only [Countdown.weight]
      split <;> omega
    rw [Countdown.total_cons, List.length_cons, Nat.add_mul, Nat.one_mul]
    omega

end Queue

section Events

variable {c : Config} {t deadline : Int} {queue : List (Appointment (Event κ))} {name : ScriptName}
  {early : Prop} {w : World κ μ}

/-- A scene in which an event has perhaps set a timer. -/
def Goes (c : Config) (t : Int) (queue : List (Appointment (Event κ)))
    (holds : Host κ → Bool → Prop) (w : World κ μ) : Prop :=
  ∃ queue', Follows t queue queue' ∧ Scene c t queue' holds w

theorem sets_scene (timed : Timed c) (holds : Host κ → Bool → Prop) :
    Session.Sets (Scene (μ := μ) c t queue holds) (Goes c t queue holds) (Breaks c t queue) := by
  have set {w : World κ μ} (scene : Scene c t queue holds w) {delay : Int} (long : 10000 ≤ delay)
      (id : Int) (slot : Nat) :
      Session.Kept (Goes c t queue holds) (Breaks c t queue)
        (Simulation.schedule delay (.tick id slot) w) := by
    obtain ⟨host, present, held⟩ := scene.host
    rw [schedule_apply (by omega), scene.now]
    have fresh : ∀ b ∈ queue, b.serial < w.scheduler.issued := by
      rw [← scene.pending]
      exact w.scheduler.fresh
    have pending : (w.register (t + delay) (.tick id slot)).scheduler.pending =
        Scheduler.insert ⟨t + delay, w.scheduler.issued, .tick id slot⟩ queue := by
      rw [← scene.pending]
      rfl
    exact ⟨_, .timer (by omega) fresh, scene.config, scene.now, pending, scene.listeners, host,
      present, held⟩
  refine ⟨fun scene => ⟨queue, .same, scene⟩, fun {w w'} scene scene' id slot => ?_,
    fun {w delay} scene long id slot => ?_⟩
  · refine set scene' ?_ id slot
    rw [scene.config, timed.starts]
    decide
  · refine set scene (Int.le_trans ?_ long) id slot
    rw [scene.config, timed.sends]
    decide

theorem boot_goes (act : Behaviour κ μ) (timed : Timed c)
    (scene : Scene c t queue (Active name early) w)
    (inTime : Text.contains c.keywordStarted Config.standard.keywordDone = true → early) (id : Int) :
    Session.Kept (Goes c t queue (Active name early)) (Breaks c t queue)
      (Simulation.fire act (.boot id) w) := by
  have carries : Carries (Scene (κ := κ) (μ := μ) c t queue (Active name early)) (Breaks c t queue) :=
    carries fun _ _ active => active.fair
  refine carries.moves.boot (sets_scene timed _) id scene fun _ => ?_
  refine emit_active act scene (fun done => inTime ?_) id
  rw [scene.config] at done
  exact Message.contains_of_started_done done

theorem tick_goes (act : Behaviour κ μ) (timed : Timed c)
    (scene : Scene c t queue (Active name early) w) (inTime : early) (id : Int) (slot : Nat) :
    Session.Kept (Goes c t queue (Active name early)) (Breaks c t queue)
      (Simulation.fire act (.tick id slot) w) := by
  have carries : Carries (Scene (κ := κ) (μ := μ) c t queue (Active name early)) (Breaks c t queue) :=
    carries fun _ _ active => active.fair
  have speaks : Speaks (Simulation.hear act) (Scene c t queue (Active name early))
      (Breaks c t queue) := fun scene _ _ => emit_active act scene (fun _ => inTime) _
  exact carries.moves.tick speaks (sets_scene timed _) id slot scene

end Events

section Loop

variable {c : Config} {deadline : Int} {e : Appointment (Event κ)} {name : ScriptName}
  {w : World κ μ}

/-- A moment between two events of a test that has not ended. -/
structure Waiting (c : Config) (deadline : Int) (e : Appointment (Event κ)) (name : ScriptName)
    (w : World κ μ) : Prop where
  scene : Scene c w.now w.scheduler.pending (Underway name) w
  awaits : Awaits deadline e w.scheduler.pending

/-- The end of a test: it has been cleared in time, or has timed out at its deadline. -/
structure Over (c : Config) (deadline : Int) (name : ScriptName) (w : World κ μ) : Prop where
  scene : Scene c w.now w.scheduler.pending (fun host stopped =>
    Ended name (Early c deadline w.now) host stopped ∨ TimedOut host stopped ∧ w.now = deadline) w
  timely : w.now ≤ deadline

/-- Where a failure leaves a test. -/
def Failed (deadline : Int) (w : World κ μ) : Prop :=
  w.now ≤ deadline ∧ ∃ host, w.hosts[0]? = some host ∧ Fair host w.scheduler.stopped

theorem failed_of_scene {t : Int} {queue : List (Appointment (Event κ))} (timely : t ≤ deadline)
    (scene : Scene c t queue Fair w) : Failed deadline w := by
  rw [← scene.now] at timely
  exact ⟨timely, scene.host⟩

/-- What an event leaves behind, seen once it is done: the test waits for the next one or is over. -/
theorem waiting_of_goes {a : Appointment (Event κ)} {queue : List (Appointment (Event κ))}
    (awaits : Awaits deadline e (a :: queue)) (other : e ≠ a) (timely : a.due ≤ deadline)
    (goes : Goes c a.due queue (Active name (Early c deadline a.due)) w) :
    (Waiting c deadline e name w.finishEvent ∨ Over c deadline name w.finishEvent) ∧
      Countdown.total deadline w.finishEvent.scheduler.pending <
        Countdown.total deadline (a :: queue) := by
  obtain ⟨queue', follows, scene⟩ := goes
  have pending : w.finishEvent.scheduler.pending = queue' := scene.pending
  have now : w.finishEvent.now = a.due := scene.now
  have lighter := total_follows timely follows
  obtain ⟨host, present, underway | ended⟩ := scene.host
  · refine ⟨.inl ⟨?_, ?_⟩, pending ▸ lighter⟩
    · exact ⟨scene.config, rfl, rfl, scene.listeners, host, present, underway⟩
    · rw [pending]
      exact awaits.follows other follows
  · refine ⟨.inr ⟨?_, now ▸ timely⟩, pending ▸ lighter⟩
    refine ⟨scene.config, rfl, rfl, scene.listeners, host, present, .inl ?_⟩
    rw [now]
    exact ended

/-- Each event of a test that waits makes it go on or ends it. -/
theorem Waiting.fires (act : Behaviour κ μ) (timed : Timed c)
    (waiting : Waiting c deadline e name w) :
    ∃ a s, w.scheduler.next? = some (a, s) ∧
      Yields (fun _ w' =>
          (Waiting c deadline e name w'.finishEvent ∨ Over c deadline name w'.finishEvent) ∧
            Countdown.total deadline w'.finishEvent.scheduler.pending <
              Countdown.total deadline w.scheduler.pending)
        (fun _ => Failed deadline) (Simulation.fire act a.event { w with scheduler := s }) := by
  obtain ⟨scene, awaits⟩ := waiting
  obtain ⟨first, rest, shape⟩ := List.exists_cons_of_ne_nil (List.ne_nil_of_mem awaits.member)
  obtain ⟨s, next⟩ := Scheduler.next?_of_pending shape
  have takes := Scheduler.takes_of_next? next
  obtain rfl : s.pending = rest := (List.cons.inj (takes.pending.symm.trans shape)).2
  have taken (holds : Host κ → Bool → Prop)
      (implies : ∀ host stopped, Underway name host stopped → holds host stopped) :
      Scene c first.due s.pending holds { w with scheduler := s } := by
    obtain ⟨host, present, underway⟩ := scene.host
    rw [← takes.stopped] at underway
    exact ⟨scene.config, takes.now, rfl, scene.listeners, host, present, implies _ _ underway⟩
  refine ⟨first, s, next, ?_⟩
  rw [takes.pending] at awaits ⊢
  by_cases last : e = first
  · -- the deadline expires
    subst last
    have expired := expire_underway act (taken (Underway name) fun _ _ underway => underway) deadline
    rw [awaits.event]
    refine (yields_of_kept expired).imp (fun _ w' ended => ?_) fun _ w' scene =>
      failed_of_scene (Int.le_of_eq awaits.due) scene
    obtain ⟨host, present, timedOut⟩ := ended.host
    have now : w'.finishEvent.now = deadline := ended.now.trans awaits.due
    have pending : w'.finishEvent.scheduler.pending = s.pending := ended.pending
    have scene : Scene c w'.finishEvent.now w'.finishEvent.scheduler.pending (fun host stopped =>
        Ended name (Early c deadline w'.finishEvent.now) host stopped ∨
          TimedOut host stopped ∧ w'.finishEvent.now = deadline) w'.finishEvent :=
      ⟨ended.config, rfl, rfl, ended.listeners, host, present, .inr ⟨timedOut, now⟩⟩
    refine ⟨.inr ⟨scene, Int.le_of_eq now⟩, ?_⟩
    rw [pending]
    exact total_follows (Int.le_of_eq awaits.due) .same
  · have active := taken (Active name (Early c deadline first.due)) fun _ _ underway => .inl underway
    rcases awaits.timely last takes.before with ⟨⟨id, boots⟩, timely⟩ | ⟨⟨id, slot, ticks⟩, early⟩
    · rw [boots]
      have gone := boot_goes act timed active .inr id
      exact (yields_of_kept gone).imp
        (fun _ w' goes => waiting_of_goes awaits last timely goes)
        fun _ w' scene => failed_of_scene timely scene
    · rw [ticks]
      have gone := tick_goes act timed active (.inl early) id slot
      have timely := Int.le_of_lt early
      exact (yields_of_kept gone).imp
        (fun _ w' goes => waiting_of_goes awaits last timely goes)
        fun _ w' scene => failed_of_scene timely scene

theorem Over.stopped (settled : Over c deadline name w) : w.scheduler.stopped = true := by
  obtain ⟨host, _, ended | ⟨timedOut, _⟩⟩ := settled.scene.host
  · exact ended.stopped
  · exact timedOut.stopped

/-- The loop over the events of a test ends it, given fuel for all that its events may lead to. -/
theorem Waiting.run (act : Behaviour κ μ) (timed : Timed c)
    (waiting : Waiting c deadline e name w) {fuel : Nat}
    (enough : Countdown.total deadline w.scheduler.pending < fuel) :
    Yields (fun _ => Over c deadline name) (fun _ => Failed deadline)
      (Simulation.run (Simulation.fire act) none fuel w) := by
  let keeps (w : World κ μ) : Prop := Waiting c deadline e name w ∨ Over c deadline name w
  have fires (w : World κ μ) (kept : keeps w) (running : w.scheduler.stopped = false) :
      ∃ a s, w.scheduler.next? = some (a, s) ∧
        Yields (fun _ w' => keeps w'.finishEvent ∧
            Countdown.total deadline w'.finishEvent.scheduler.pending <
              Countdown.total deadline w.scheduler.pending)
          (fun _ => Failed deadline) (Simulation.fire act a.event { w with scheduler := s }) := by
    rcases kept with waiting | settled
    · exact waiting.fires act timed
    · cases settled.stopped.symm.trans running
  have ran := run_yields (fun w => Countdown.total deadline w.scheduler.pending) fires fuel w
    (.inl waiting)
  generalize Simulation.run (Simulation.fire act) none fuel w = result at ran
  match result, ran with
  | .ok time w', ⟨.inr settled, _⟩ => exact settled
  | .ok time w', ⟨.inl waiting, stopped, _⟩ =>
    obtain ⟨host, _, underway⟩ := waiting.scene.host
    cases underway.running.symm.trans stopped
  | .error (.failure f) w', failed => exact failed
  | .error .exhausted w', ⟨_, short⟩ => omega

end Loop

end MoteTrial.Deadline
