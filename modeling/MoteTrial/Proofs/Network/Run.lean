import MoteTrial.Proofs.Host.TestRun
import MoteTrial.Proofs.Network.FirmwareSteps
import MoteTrial.Proofs.Schedule.Countdown

/-! # Runs of a test on a network

A network whose motes boot once and run the usual firmware is tested by a script with a deadline.
`Queue` tells which events are pending and how far the counters of clients can have come by then.
`test_yields` puts it together with what the listeners keep: no event is later than the deadline, and
the run ends.
-/

namespace MoteTrial

open SimM Simulation

variable {κ μ : Type}

/-- The pending events of a test that goes on: the boots, the timers and the deadline. No mote has two
of them, and its clients have sent one datagram every ten seconds at most by the time of its event. -/
structure Queue (timeout : Int) (w : World κ μ) : Prop where
  deadline : ∃ a ∈ w.scheduler.pending, a.event = .expire 0 timeout .builtIn ∧ a.due = timeout
  known : ∀ a ∈ w.scheduler.pending, (∃ id, a.event = .boot id) ∨ (∃ id slot, a.event = .tick id slot) ∨
    a.event = .expire 0 timeout .builtIn ∧ a.due = timeout
  once : (subjects w.scheduler.pending).Nodup
  later : ∀ a ∈ w.scheduler.pending, w.now ≤ a.due
  paced : ∀ a ∈ w.scheduler.pending, ∀ id, a.event.subject? = some id →
    ∀ slot n, w.counterAt id slot = some n → 10000 * (n : Int) ≤ a.due

/-- A test on a network between two events, its deadline not having expired. -/
structure Underway (timeout : Int) (held : World κ μ → Prop) (w : World κ μ) : Prop where
  held : held w
  peopled : w.Peopled
  queue : w.scheduler.stopped = false → Queue timeout w

section Events

variable {timeout : Int} {w w' : World κ μ} {a : Appointment (Event κ)} {s : Scheduler (Event κ)}
  {id : Int}

/-- The next event is due before the deadline or at it. -/
theorem Queue.timely (queue : Queue timeout w) (takes : w.scheduler.Takes a s) :
    a.due ≤ timeout := by
  obtain ⟨e, member, _, due⟩ := queue.deadline
  rw [takes.pending] at member
  rcases List.mem_cons.mp member with rfl | member
  · omega
  · have := takes.before e member
    unfold Appointment.Before at this
    omega

/-- The events that are left are due no earlier. -/
theorem Queue.later_of_takes (takes : w.scheduler.Takes a s) : ∀ b ∈ s.pending, a.due ≤ b.due := by
  intro b member
  have := takes.before b member
  unfold Appointment.Before at this
  omega

/-- The queue after an event of a mote that has set no timer. -/
theorem Queue.drop (queue : Queue timeout w) (takes : w.scheduler.Takes a s)
    (subject : a.event.subject? = some id) (now : w'.now = a.due)
    (others : ∀ other slot, other ≠ id → w'.counterAt other slot = w.counterAt other slot)
    (pending : w'.scheduler.pending = s.pending) :
    Queue timeout w' ∧ id ∉ subjects w'.scheduler.pending := by
  have distinct := queue.once
  rw [takes.pending, subjects_cons subject] at distinct
  obtain ⟨absent, once⟩ := List.nodup_cons.mp distinct
  have kept : ∀ b ∈ s.pending, b ∈ w.scheduler.pending := by
    intro b member
    rw [takes.pending]
    exact List.mem_cons_of_mem _ member
  rw [pending]
  refine ⟨?_, absent⟩
  constructor <;> rw [pending]
  · obtain ⟨e, member, event, due⟩ := queue.deadline
    rw [takes.pending] at member
    rcases List.mem_cons.mp member with rfl | member
    · rw [event] at subject
      cases subject
    · exact ⟨e, member, event, due⟩
  · intro b member
    exact queue.known b (kept b member)
  · exact once
  · rw [now]
    exact later_of_takes takes
  · intro b member other about slot n counter
    have different : other ≠ id := by
      rintro rfl
      exact absent (List.mem_filterMap.mpr ⟨b, member, about⟩)
    rw [others other slot different] at counter
    exact queue.paced b (kept b member) other about slot n counter

/-- The queue once the timer of a mote that has no other event is set. -/
theorem Queue.insert (queue : Queue timeout w) (absent : id ∉ subjects w.scheduler.pending)
    {timer : Appointment (Event κ)} {slot : Nat} (event : timer.event = .tick id slot)
    (later : w.now ≤ timer.due)
    (paced : ∀ slot n, w.counterAt id slot = some n → 10000 * (n : Int) ≤ timer.due)
    (now : w'.now = w.now)
    (counters : ∀ id slot, w'.counterAt id slot = w.counterAt id slot)
    (pending : w'.scheduler.pending = Scheduler.insert timer w.scheduler.pending) :
    Queue timeout w' := by
  have about : timer.event.subject? = some id := by
    rw [event]
    rfl
  constructor <;> rw [pending]
  · obtain ⟨e, member, facts⟩ := queue.deadline
    exact ⟨e, Scheduler.mem_insert.mpr (.inr member), facts⟩
  · intro b member
    rcases Scheduler.mem_insert.mp member with rfl | member
    · exact .inr (.inl ⟨id, slot, event⟩)
    · exact queue.known b member
  · refine (subjects_insert timer w.scheduler.pending).symm.nodup ?_
    rw [subjects_cons about]
    exact List.nodup_cons.mpr ⟨absent, queue.once⟩
  · intro b member
    rw [now]
    rcases Scheduler.mem_insert.mp member with rfl | member
    · exact later
    · exact queue.later b member
  · intro b member other about' place n counter
    rw [counters] at counter
    rcases Scheduler.mem_insert.mp member with rfl | member
    · rw [about] at about'
      cases about'
      exact paced place n counter
    · exact queue.paced b member other about' place n counter

/-- The queue after an event of a mote. -/
theorem Queue.follow (queue : Queue timeout w) (takes : w.scheduler.Takes a s)
    (subject : a.event.subject? = some id) (follows : Follows id { w with scheduler := s } w') :
    Queue timeout w' := by
  have now : w'.now = a.due := follows.now.trans takes.now
  have others (other : Int) (slot : Nat) (different : other ≠ id) :
      w'.counterAt other slot = w.counterAt other slot := follows.others other slot different
  rcases follows.pending with same | ⟨timer, slot, event, interval, grown⟩
  · exact (queue.drop takes subject now others same).1
  · -- the world in which the timer is not set yet
    let idle : World κ μ := { w' with scheduler := { s with now := w'.scheduler.now } }
    have stood : idle.now = a.due := now
    obtain ⟨dropped, absent⟩ := queue.drop takes subject stood others rfl
    have start : ({ w with scheduler := s } : World κ μ).now = a.due := takes.now
    refine dropped.insert absent event ?_ ?_ rfl (fun _ _ => rfl) grown
    · change w'.now ≤ timer.due
      omega
    · intro place n counter
      have := follows.own place n counter
      omega

/-- The events that may still follow become fewer with an event of a mote. -/
theorem Follows.fewer (follows : Follows id { w with scheduler := s } w')
    (takes : w.scheduler.Takes a s) (timely : a.due ≤ timeout) :
    Countdown.total timeout w'.scheduler.pending < Countdown.total timeout w.scheduler.pending := by
  rw [takes.pending, Countdown.total_cons]
  rcases follows.pending with same | ⟨timer, slot, event, interval, grown⟩
  · rw [same]
    have := Countdown.weight_pos timely
    simp only
    omega
  · rw [grown, Countdown.total_insert]
    have start : ({ w with scheduler := s } : World κ μ).now = a.due := takes.now
    have : Countdown.weight timeout timer.due < Countdown.weight timeout a.due :=
      Countdown.weight_lt timely (by omega)
    simp only
    omega

end Events

section Test

variable {act : Behaviour κ μ} {timeout : Int} {held ended : World κ μ → Prop}
  {bad : Failure → World κ μ → Prop} {w : World κ μ}

theorem Listening.finishEvent (listening : Listening act timeout held ended bad) (before : held w) :
    held w.finishEvent :=
  listening.aside before w.motes w.medium.draws w.jitter w.scheduler.finishEvent rfl rfl

/-- When the event of a mote comes, its clients have sent one datagram every ten seconds at most. -/
theorem Queue.paced_now (queue : Queue timeout w) {a : Appointment (Event κ)}
    {s : Scheduler (Event κ)} (takes : w.scheduler.Takes a s) {id : Int}
    (subject : a.event.subject? = some id) (slot n : Nat)
    (counter : ({ w with scheduler := s } : World κ μ).counterAt id slot = some n) :
    10000 * (n : Int) ≤ ({ w with scheduler := s } : World κ μ).now := by
  have here : a ∈ w.scheduler.pending := takes.pending ▸ List.mem_cons_self ..
  have paced := queue.paced a here id subject slot n counter
  have start : ({ w with scheduler := s } : World κ μ).now = a.due := takes.now
  omega

/-- An event of a mote keeps a test underway, and makes the events that may still follow fewer. -/
theorem Queue.after_mote (queue : Queue timeout w) (listening : Listening act timeout held ended bad)
    {a : Appointment (Event κ)} {s : Scheduler (Event κ)} (takes : w.scheduler.Takes a s) {id : Int}
    (subject : a.event.subject? = some id) {w' : World κ μ} (after : held w')
    (follows : Follows id { w with scheduler := s } w') :
    Underway timeout held w'.finishEvent ∧
      Countdown.total timeout w'.finishEvent.scheduler.pending <
        Countdown.total timeout w.scheduler.pending := by
  have followed := queue.follow takes subject follows
  refine ⟨⟨listening.finishEvent after, follows.peopled, ?_⟩, follows.fewer takes (queue.timely takes)⟩
  intro _
  exact ⟨followed.deadline, followed.known, followed.once, followed.later, followed.paced⟩

/-- Every event keeps a test underway or is its deadline, and makes the events that may still follow
fewer. -/
theorem Underway.fires (listening : Listening act timeout held ended bad)
    (underway : Underway timeout held w) (running : w.scheduler.stopped = false) :
    ∃ a s, w.scheduler.next? = some (a, s) ∧
      Yields (fun _ w' => (Underway timeout held w'.finishEvent ∨
            ended w'.finishEvent ∧ w'.scheduler.stopped = true) ∧
          Countdown.total timeout w'.finishEvent.scheduler.pending <
            Countdown.total timeout w.scheduler.pending) bad
        (fire act a.event { w with scheduler := s }) := by
  have queue := underway.queue running
  obtain ⟨e, member, _⟩ := queue.deadline
  obtain ⟨a, rest, shape⟩ := List.exists_cons_of_ne_nil (List.ne_nil_of_mem member)
  obtain ⟨s, next⟩ := Scheduler.next?_of_pending shape
  have takes := Scheduler.takes_of_next? next
  have timely := queue.timely takes
  have here : a ∈ w.scheduler.pending := shape ▸ List.mem_cons_self ..
  have moved : held { w with scheduler := s } :=
    listening.moves underway.held running takes (queue.later a here) timely
  refine ⟨a, s, next, ?_⟩
  rcases queue.known a here with ⟨id, event⟩ | ⟨id, slot, event⟩ | ⟨event, due⟩
  · have subject : a.event.subject? = some id := by
      rw [event]
      rfl
    rw [event]
    refine (boot_yields listening moved underway.peopled (queue.paced_now takes subject)).imp ?_
      fun _ _ failed => failed
    rintro _ w' ⟨after, follows⟩
    exact (queue.after_mote listening takes subject after follows).imp_left .inl
  · have subject : a.event.subject? = some id := by
      rw [event]
      rfl
    rw [event]
    refine (tick_yields listening moved underway.peopled (queue.paced_now takes subject)).imp ?_
      fun _ _ failed => failed
    rintro _ w' ⟨after, follows⟩
    exact (queue.after_mote listening takes subject after follows).imp_left .inl
  · rw [event]
    refine (listening.expires moved (takes.stopped.trans running) (takes.now.trans due)).imp ?_
      fun _ _ failed => failed
    rintro _ w' ⟨after, stopped, pending⟩
    refine ⟨.inr ⟨after, stopped⟩, ?_⟩
    have := Countdown.weight_pos timely
    change Countdown.total timeout w'.scheduler.pending < _
    rw [pending, takes.pending, Countdown.total_cons]
    simp only
    omega

/-- A test on a network ends. -/
theorem test_yields (listening : Listening act timeout held ended bad)
    (start : Underway timeout held w) (fuel : Nat) :
    match run (fire act) none fuel w with
    | .ok time w' => (Underway timeout held w' ∨ ended w') ∧ w'.scheduler.stopped = true ∧ time = w'.now
    | .error (.failure f) w' => bad f w'
    | .error .exhausted w' => (Underway timeout held w' ∨ ended w') ∧
      fuel ≤ Countdown.total timeout w.scheduler.pending := by
  have fires (w : World κ μ) (kept : Underway timeout held w ∨ ended w ∧ w.scheduler.stopped = true)
      (running : w.scheduler.stopped = false) :=
    Underway.fires listening (kept.resolve_right fun ended => by simp [running] at ended) running
  have ran := run_yields (fun w => Countdown.total timeout w.scheduler.pending) fires fuel w (.inl start)
  generalize run (fire act) none fuel w = r at ran
  match r, ran with
  | .ok time w', ⟨kept, rest⟩ => exact ⟨kept.imp_right And.left, rest⟩
  | .error (.failure f) w', failed => exact failed
  | .error .exhausted w', ⟨kept, short⟩ => exact ⟨kept.imp_right And.left, short⟩

end Test

section Start

variable {n : Network} {w₀ w w' : World κ μ}

theorem App.installed_mote (app : App) (slot : Nat) : app.mote.installed[slot]? ≠ some .blankClient ∧
    ∀ c, app.mote.client? slot = some c → c.counter = 0 := by
  cases app <;> rcases slot with _ | slot <;> simp [App.mote, App.firmware?, Mote.install, Mote.client?]

/-- A network that is put together has the motes that it should have. -/
theorem Network.Ready.peopled (ready : n.Ready w₀ w) : w.Peopled := by
  intro id mote present
  obtain ⟨app, added, rfl⟩ := ready.app present
  exact ⟨n.nonneg (id, app) added, n.writable (id, app) added, fun slot => (app.installed_mote slot).1⟩

theorem Network.Ready.counterAt (ready : n.Ready w₀ w) {id : Int} {slot counter : Nat}
    (there : w.counterAt id slot = some counter) : counter = 0 := by
  obtain ⟨c, client, rfl⟩ := Option.map_eq_some_iff.mp there
  obtain ⟨mote, present, client⟩ := Option.bind_eq_some_iff.mp client
  obtain ⟨app, _, rfl⟩ := ready.app present
  exact (app.installed_mote slot).2 c client

/-- The queue with which a test on a network starts. -/
theorem Network.Ready.queue (ready : n.Ready w₀ w) {timeout : Int} (nonneg : 0 ≤ timeout)
    (motes : w'.motes = w.motes) (scheduler : w'.scheduler =
      w.scheduler.register timeout (.expire 0 timeout .builtIn)) : Queue timeout w' := by
  have pending : w'.scheduler.pending = Scheduler.insert
      ⟨timeout, w.scheduler.issued, .expire 0 timeout .builtIn⟩ w.scheduler.pending := by
    rw [scheduler]
    rfl
  have now : w'.now = 0 := by
    rw [World.now, scheduler]
    exact ready.now
  have counters (id : Int) (slot : Nat) : w'.counterAt id slot = w.counterAt id slot := by
    rw [World.counterAt, World.counterAt, World.clientAt, World.clientAt, motes]
  have known : ∀ a ∈ w'.scheduler.pending, (∃ id, 0 ≤ id ∧ a.event = .boot id ∧ a.due = 1333 * id) ∨
      a.event = .expire 0 timeout .builtIn ∧ a.due = timeout := by
    intro a member
    rw [pending] at member
    rcases Scheduler.mem_insert.mp member with rfl | member
    · exact .inr ⟨rfl, rfl⟩
    · exact .inl (ready.boots a member)
  have later : ∀ a ∈ w'.scheduler.pending, 0 ≤ a.due := by
    intro a member
    rcases known a member with ⟨id, first, _, due⟩ | ⟨_, due⟩
    · omega
    · omega
  constructor
  · exact ⟨_, pending ▸ Scheduler.mem_insert.mpr (.inl rfl), rfl, rfl⟩
  · intro a member
    rcases known a member with ⟨id, _, event, _⟩ | expiry
    · exact .inl ⟨id, event⟩
    · exact .inr (.inr expiry)
  · rw [pending]
    exact (subjects_insert _ _).symm.nodup ready.once
  · rw [now]
    exact later
  · intro a member id _ slot counter there
    rw [counters] at there
    have := later a member
    rw [ready.counterAt there]
    omega

end Start

end MoteTrial
