import MoteTrial.Proofs.Client.Agenda

/-! # The course of a test with one client

A `Course` says how the boots and the timers of a network lead from phase to phase while the script goes
on, and `Course.runs` follows it to its end. `Course.scenario_stands` does so from the building of the
network on.
-/

namespace MoteTrial

open SimM Simulation
open MoteTrial.Random (Jitter)

variable {κ μ : Type}

/-- A test that goes on in a phase of its network; `bench` tells how the script stands by then. -/
structure OnCourse (timeout : Int) (bench : Phase → Bench κ) (net : Phase → World κ μ → Prop)
    (phase : Phase) (w : World κ μ) : Prop where
  playing : Playing timeout (bench phase) w
  net : net phase w

/-- A test that its deadline has ended; the deadline was written to the console. -/
structure Expired (timeout : Int) (jitter : Jitter) (bench : Phase → Bench κ)
    (net : Phase → World κ μ → Prop) (phase : Phase) (w : World κ μ) : Prop where
  overdue : phase.Overdue timeout jitter
  writable : Numeral.isWritable timeout = true
  net : net phase w
  describes : ((bench phase).expire timeout).Describes w

/-- What holds of a network rests on its motes, its medium and its delays. -/
def Steady (net : Phase → World κ μ → Prop) : Prop :=
  ∀ (phase : Phase) (w w' : World κ μ), net phase w → w'.motes = w.motes →
    w'.medium = w.medium → w'.jitter = w.jitter → net phase w'

/-- How a test goes on from phase to phase; `ended` is how a line may end it. -/
structure Course (act : Behaviour κ μ) (timeout : Int) (jitter : Jitter) (bench : Phase → Bench κ)
    (net : Phase → World κ μ → Prop) (ended : World κ μ → Prop) : Prop where
  steady : Steady net
  boots {id : Int} {others : List Int} {w : World κ μ} :
    OnCourse timeout bench net (.booting id others) w → w.now = 1333 * id →
    1333 * id ≤ timeout →
    ∃ w', boot (hear act) id w = .ok () w' ∧ OnCourse timeout bench net (.boots others) w' ∧
      Sets ((Phase.boots others).timer? jitter) w w'
  ticks {n : Nat} {w : World κ μ} : OnCourse timeout bench net (.sending n) w →
    w.now = jitter.timerDue n → jitter.timerDue n < timeout →
    ∃ w', tick (hear act) 3 0 w = .ok () w' ∧
      ((∃ phase, (phase = .sending (n + 1) ∨ phase = .silent) ∧
          OnCourse timeout bench net phase w' ∧ Sets (phase.timer? jitter) w w') ∨
        ended w'.finishEvent ∧ w'.scheduler.stopped = true ∧ Sets none w w')

section Run

variable {act : Behaviour κ μ} {timeout : Int} {jitter : Jitter} {bench : Phase → Bench κ}
  {net : Phase → World κ μ → Prop} {ended : World κ μ → Prop} {phase : Phase} {w w' : World κ μ}

/-- A test between two events: it goes on, or it has ended. -/
inductive Standing (timeout : Int) (jitter : Jitter) (bench : Phase → Bench κ)
    (net : Phase → World κ μ → Prop) (ended : World κ μ → Prop) (w : World κ μ) : Prop where
  | on (phase : Phase) (on : OnCourse timeout bench net phase w)
    (agenda : w.agenda = phase.queue timeout jitter)
  | expired (phase : Phase) (expired : Expired timeout jitter bench net phase w)
    (stopped : w.scheduler.stopped = true)
  | ended (ended : ended w) (stopped : w.scheduler.stopped = true)

theorem OnCourse.moved (steady : Steady net) (on : OnCourse timeout bench net phase w)
    {s : Scheduler (Event κ)} (running : s.stopped = false) :
    OnCourse timeout bench net phase { w with scheduler := s } where
  playing := ⟨on.playing.standard, on.playing.silent, on.playing.listeners, running, on.playing.host,
    on.playing.mutations, on.playing.sound, on.playing.listening⟩
  net := steady _ _ _ on.net rfl rfl rfl

theorem OnCourse.finishEvent (steady : Steady net) (on : OnCourse timeout bench net phase w) :
    OnCourse timeout bench net phase w.finishEvent :=
  on.moved steady on.playing.running

/-- How a test can fail: its deadline comes and is too long a number to be written. -/
structure Unwritable (timeout : Int) (jitter : Jitter) (bench : Phase → Bench κ)
    (net : Phase → World κ μ → Prop) (f : Failure) : Prop where
  failure : f = .unwritableInteger
  long : Numeral.isWritable timeout = false
  overdue : ∃ phase w, OnCourse timeout bench net phase w ∧ phase.Overdue timeout jitter

/-- The next event leads on, and makes the events that may still follow fewer, or fails at the
deadline. -/
def Fires (timeout : Int) (jitter : Jitter) (bench : Phase → Bench κ)
    (net : Phase → World κ μ → Prop) (ended : World κ μ → Prop) (act : Behaviour κ μ)
    (w : World κ μ) : Prop :=
  ∃ a s, w.scheduler.next? = some (a, s) ∧
    Yields (fun _ w' => Standing timeout jitter bench net ended w'.finishEvent ∧
        Countdown.total timeout w'.finishEvent.scheduler.pending <
          Countdown.total timeout w.scheduler.pending)
      (fun f _ => Unwritable timeout jitter bench net f)
      (fire act a.event { w with scheduler := s })

/-- The deadline expires. -/
theorem OnCourse.expires (course : Course act timeout jitter bench net ended)
    (on : OnCourse timeout bench net phase w) (overdue : phase.Overdue timeout jitter)
    (due : w.now = timeout) (writable : Numeral.isWritable timeout = true) :
    ∃ w', Host.expire act 0 timeout .builtIn w = .ok () w' ∧
      Expired timeout jitter bench net phase w'.finishEvent ∧ w'.scheduler.stopped = true ∧
      Sets none w w' := by
  obtain ⟨w', expired, describes, scheduler, motes, medium, jitter⟩ :=
    on.playing.expires act due writable
  refine ⟨w', expired, ⟨overdue, writable, course.steady _ _ _ on.net motes medium jitter, ?_⟩, ?_, ?_, ?_⟩
  · exact ⟨describes.host, describes.mutations, describes.now⟩
  · rw [scheduler]
    rfl
  · rw [World.now, scheduler]
    rfl
  · change w'.scheduler.pending = _
    rw [scheduler]
    rfl

/-- The deadline comes next. -/
theorem OnCourse.fires_deadline (course : Course act timeout jitter bench net ended)
    (on : OnCourse timeout bench net phase w) (overdue : phase.Overdue timeout jitter)
    {rest : List (Int × Event κ)} (agenda : w.agenda = Phase.deadline timeout :: rest) :
    Fires timeout jitter bench net ended act w := by
  obtain ⟨a, s, next, takes, key, _⟩ := World.pops agenda
  obtain ⟨due, event⟩ := Prod.mk.inj key
  have moved := on.moved course.steady (takes.stopped.trans on.playing.running)
  have fired : fire act a.event { w with scheduler := s } =
      Host.expire act 0 timeout .builtIn { w with scheduler := s } := by
    rw [event]
    rfl
  refine ⟨a, s, next, ?_⟩
  rw [fired]
  cases written : Numeral.isWritable timeout with
  | true =>
    obtain ⟨w', expired, ended, stopped, sets⟩ :=
      moved.expires course overdue (takes.now.trans due) written
    rw [expired]
    exact ⟨.expired phase ended stopped, sets.fewer takes (Int.le_of_eq due)⟩
  | false =>
    obtain ⟨w', failed, _⟩ :=
      Host.expire_unwritable act moved.playing.host moved.playing.listening written .builtIn
    rw [failed]
    exact ⟨rfl, written, phase, _, moved, overdue⟩

/-- A boot comes next. -/
theorem OnCourse.fires_boot (course : Course act timeout jitter bench net ended) {id : Int}
    {others : List Int} (on : OnCourse timeout bench net (.booting id others) w)
    (timely : 1333 * id ≤ timeout)
    (agenda : w.agenda = (1333 * id, .boot id) :: Phase.bootQueue timeout others) :
    Fires timeout jitter bench net ended act w := by
  obtain ⟨a, s, next, takes, key, rest⟩ := World.pops agenda
  obtain ⟨due, event⟩ := Prod.mk.inj key
  have moved := on.moved course.steady (takes.stopped.trans on.playing.running)
  obtain ⟨w', booted, further, sets⟩ := course.boots moved (takes.now.trans due) timely
  have fired : fire act a.event { w with scheduler := s } = .ok () w' := by
    rw [event]
    exact booted
  refine ⟨a, s, next, ?_⟩
  rw [fired]
  refine ⟨.on (.boots others) (further.finishEvent course.steady) ?_, sets.fewer takes (due ▸ timely)⟩
  change w'.agenda = _
  cases others with
  | nil => exact sets.agenda rest
  | cons id' others =>
    rw [World.agenda, sets.pending]
    exact rest

/-- The timer of the client comes next. -/
theorem OnCourse.fires_timer (course : Course act timeout jitter bench net ended) {n : Nat}
    (on : OnCourse timeout bench net (.sending n) w) (soon : jitter.timerDue n < timeout)
    (agenda : w.agenda = [(jitter.timerDue n, .tick 3 0), Phase.deadline timeout]) :
    Fires timeout jitter bench net ended act w := by
  obtain ⟨a, s, next, takes, key, rest⟩ := World.pops agenda
  obtain ⟨due, event⟩ := Prod.mk.inj key
  have moved := on.moved course.steady (takes.stopped.trans on.playing.running)
  obtain ⟨w', ticked, result⟩ := course.ticks moved (takes.now.trans due) soon
  have fired : fire act a.event { w with scheduler := s } = .ok () w' := by
    rw [event]
    exact ticked
  have timely : a.due ≤ timeout := due ▸ Int.le_of_lt soon
  refine ⟨a, s, next, ?_⟩
  rw [fired]
  rcases result with ⟨phase, further, on, sets⟩ | ⟨ended, stopped, sets⟩
  · refine ⟨.on phase (on.finishEvent course.steady) ?_, sets.fewer takes timely⟩
    change w'.agenda = _
    rw [sets.agenda rest]
    rcases further with rfl | rfl <;> rfl
  · exact ⟨.ended ended stopped, sets.fewer takes timely⟩

/-- Every event leads on. -/
theorem OnCourse.fires (course : Course act timeout jitter bench net ended)
    (on : OnCourse timeout bench net phase w)
    (agenda : w.agenda = phase.queue timeout jitter) :
    Fires timeout jitter bench net ended act w := by
  cases phase with
  | silent => exact on.fires_deadline course trivial agenda
  | booting id others =>
    by_cases late : timeout < 1333 * id
    · rw [Phase.queue, Phase.bootQueue, if_pos late] at agenda
      exact on.fires_deadline course late agenda
    · rw [Phase.queue, Phase.bootQueue, if_neg late] at agenda
      exact on.fires_boot course (Int.not_lt.mp late) agenda
  | sending n =>
    by_cases soon : jitter.timerDue n < timeout
    · rw [Phase.queue, Phase.timerQueue, if_pos soon] at agenda
      exact on.fires_timer course soon agenda
    · rw [Phase.queue, Phase.timerQueue, if_neg soon] at agenda
      exact on.fires_deadline course (Int.not_lt.mp soon) agenda

/-- A test with one client ends, given enough fuel, by a line or by its deadline, and only a deadline
that cannot be written makes it fail. -/
theorem Course.runs (course : Course act timeout jitter bench net ended)
    (on : OnCourse timeout bench net phase w)
    (agenda : w.agenda = phase.queue timeout jitter) (fuel : Nat) :
    match run (fire act) none fuel w with
    | .ok _ w' => (∃ phase, Expired timeout jitter bench net phase w') ∨ ended w'
    | .error (.failure f) _ => Unwritable timeout jitter bench net f
    | .error .exhausted w' => Standing timeout jitter bench net ended w' ∧
      fuel ≤ Countdown.total timeout w.scheduler.pending := by
  have fires (w : World κ μ) (standing : Standing timeout jitter bench net ended w)
      (running : w.scheduler.stopped = false) : Fires timeout jitter bench net ended act w := by
    cases standing with
    | on phase on agenda => exact on.fires course agenda
    | expired phase expired stopped => simp [running] at stopped
    | ended ended stopped => simp [running] at stopped
  have ran := run_yields (fun w => Countdown.total timeout w.scheduler.pending) fires fuel w
    (.on phase on agenda)
  generalize run (fire act) none fuel w = r at ran
  match r, ran with
  | .ok _ w', ⟨standing, stopped, _⟩ =>
    cases standing with
    | on phase on agenda => exact absurd (on.playing.running.symm.trans stopped) (by decide)
    | expired phase expired _ => exact .inl ⟨phase, expired⟩
    | ended ended _ => exact .inr ended
  | .error (.failure _) _, failed => exact failed
  | .error .exhausted w', standing => exact standing

end Run

section Test

variable {act : Behaviour κ μ} {timeout : Int} {jitter : Jitter} {bench : Phase → Bench κ}
  {net : Phase → World κ μ → Prop} {ended : World κ μ → Prop} {phase : Phase} {w w' : World κ μ}
  {name : ScriptName} {echo : Bool}

theorem Network.Ready.playing {n : Network} (ready : n.Ready w w') (fresh : w.Fresh)
    (name : ScriptName) (echo : Bool) :
    Playing timeout (name.bench timeout echo) (w'.testing name timeout echo) := by
  obtain ⟨_, _, _, rest⟩ := ready.rest
  apply Playing.start
  · rw [rest]
    exact fresh.standard
  · rw [rest]
    exact fresh.silent
  · rw [rest]
    exact fresh.unheard
  · exact ready.running
  · exact ready.mutations.trans fresh.unchanged

theorem Network.Ready.unhosted {n : Network} (ready : n.Ready w w') (fresh : w.Fresh) :
    w'.hosts = #[] := by
  obtain ⟨_, _, _, rest⟩ := ready.rest
  rw [rest]
  exact fresh.unhosted

/-- How a test that follows a course turns out: it ends by a line or by its deadline, or it fails since
its deadline cannot be written, or it has not come to its end yet. -/
def Outcome (timeout : Int) (jitter : Jitter) (bench : Phase → Bench κ)
    (net : Phase → World κ μ → Prop) (ended : World κ μ → Prop) (unfinished : Prop) :
    EStateM.Result Interrupt (World κ μ) Nat → Prop
  | .ok h w => h = 0 ∧ ((∃ phase, Expired timeout jitter bench net phase w) ∨ ended w)
  | .error (.failure f) _ => Unwritable timeout jitter bench net f
  | .error .exhausted w => Standing timeout jitter bench net ended w ∧ unfinished

theorem Course.test_stands (course : Course act timeout jitter bench net ended) (nonneg : 0 ≤ timeout)
    (unhosted : w.hosts = #[]) (on : OnCourse timeout bench net phase (w.testing name timeout echo))
    (agenda : (w.testing name timeout echo).agenda = phase.queue timeout jitter)
    (closed : ∀ w', ended w' → ∃ host, w'.hosts[0]? = some host ∧ host.finished = true) (fuel : Nat) :
    Outcome timeout jitter bench net ended
      (fuel ≤ Countdown.total timeout (w.testing name timeout echo).scheduler.pending)
      (Scenario.runScript act fuel (name.script Config.standard (some timeout)) none echo w) := by
  have ran := course.runs on agenda fuel
  cases looped : run (fire act) none fuel (w.testing name timeout echo) with
  | error i w' =>
    rw [looped] at ran
    rw [runScript_error nonneg unhosted looped]
    cases i with
    | failure f => exact ran
    | exhausted => exact ran
  | ok time w' =>
    rw [looped] at ran
    have closing : ∃ host, w'.hosts[0]? = some host ∧ host.finished = true := by
      rcases ran with ⟨phase, expired⟩ | ended
      · exact ⟨_, expired.describes.host, rfl⟩
      · exact closed w' ended
    obtain ⟨host, present, finished⟩ := closing
    rw [runScript_ok nonneg unhosted looped present finished]
    exact ⟨rfl, ran⟩

/-- How a scenario on a fresh simulation stands after any number of events. -/
theorem Course.scenario_stands (course : Course act timeout jitter bench net ended) (name : ScriptName)
    (echo : Bool) (nonneg : 0 ≤ timeout) (fresh : w.Fresh) {n : Network} {build : SimM κ μ Unit}
    (built : build w = n.assemble w) {id : Int} {others : List Int}
    (start : bench (.booting id others) = name.bench timeout echo)
    (readies : ∀ w', n.Ready w w' → net (.booting id others) w' ∧
      w'.agenda = (id :: others).map fun id => (1333 * id, .boot id))
    (closed : ∀ w', ended w' → ∃ host, w'.hosts[0]? = some host ∧ host.finished = true) :
    ∃ enough, ∀ fuel, Outcome timeout jitter bench net ended (fuel < enough)
      (Scenario.tested act build name timeout echo fuel w) := by
  obtain ⟨made, assembled, ready⟩ := n.assemble_apply fresh
  obtain ⟨network, boots⟩ := readies made ready
  have on : OnCourse timeout bench net (.booting id others) (made.testing name timeout echo) := by
    refine ⟨?_, course.steady _ _ _ network rfl rfl rfl⟩
    rw [start]
    exact ready.playing fresh name echo
  have agenda : (made.testing name timeout echo).agenda =
      (Phase.booting id others).queue timeout jitter := ready.agenda_testing boots name echo
  refine ⟨Countdown.total timeout (made.testing name timeout echo).scheduler.pending + 1, ?_⟩
  intro fuel
  have stands := course.test_stands nonneg (ready.unhosted fresh) on agenda closed fuel
  have tested : Scenario.tested act build name timeout echo fuel w = Scenario.runScript act fuel
      (name.script Config.standard (some timeout)) none echo made := bind_ok (built.trans assembled) _
  rw [tested]
  generalize Scenario.runScript act fuel _ none echo made = result at stands ⊢
  match result, stands with
  | .ok _ _, ended => exact ended
  | .error (.failure _) _, failed => exact failed
  | .error .exhausted _, ⟨standing, few⟩ => exact ⟨standing, Nat.lt_succ_of_le few⟩

end Test

end MoteTrial
