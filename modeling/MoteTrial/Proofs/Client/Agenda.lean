import MoteTrial.Proofs.Host.TestRun
import MoteTrial.Proofs.Network.Assembly
import MoteTrial.Proofs.Schedule.Countdown

/-! # What is to happen in a test with one client

A network boots its motes, then the timer of its only client expires again and again. `Phase` tells
what is to happen next, and `Phase.queue` which events are pending, the deadline of the test among
them: a boot comes before a deadline at the same time, a timer after it.
-/

namespace MoteTrial

open SimM Simulation

variable {κ μ : Type}

namespace Random.Jitter

/-- The source of delays once some have been taken. -/
def after (j : Jitter) : Nat → Jitter
  | 0 => j
  | n + 1 => ((j.after n).next 500).2

/-- The delays in order, numbered from zero. -/
def delay (j : Jitter) (n : Nat) : Nat := ((j.after n).next 500).1

theorem delay_le (j : Jitter) (n : Nat) : j.delay n ≤ 500 := next_le 500 (j.after n)

/-- When the timer of a client expires after a number of counters. -/
def timerDue (j : Jitter) (n : Nat) : Int :=
  603999 + ((List.range n).map fun k => 10000 + (j.delay k : Int)).sum

theorem timerDue_succ (j : Jitter) (n : Nat) :
    j.timerDue (n + 1) = j.timerDue n + (10000 + j.delay n) := by
  simp only [timerDue, List.range_succ, List.map_append, List.sum_append, List.map_cons, List.map_nil,
    List.sum_cons, List.sum_nil]
  omega

theorem timerDue_mono (j : Jitter) {m n : Nat} (le : m ≤ n) :
    j.timerDue m + 10000 * ((n - m : Nat) : Int) ≤ j.timerDue n := by
  obtain ⟨more, rfl⟩ := Nat.exists_eq_add_of_le le
  clear le
  induction more with
  | zero => simp
  | succ more ih =>
    rw [← Nat.add_assoc, timerDue_succ]
    omega

theorem le_timerDue (j : Jitter) (n : Nat) : 603999 + 10000 * (n : Int) ≤ j.timerDue n :=
  j.timerDue_mono (Nat.zero_le n)

theorem timerDue_le (j : Jitter) (n : Nat) : j.timerDue n ≤ 603999 + 10500 * (n : Int) := by
  induction n with
  | zero => exact Int.le_refl _
  | succ n ih =>
    have := j.delay_le n
    rw [timerDue_succ]
    omega

end Random.Jitter

open MoteTrial.Random (Jitter)

/-- What is to happen next: some motes are still to boot, or the timer of the client is to expire after
a number of counters, or nothing. -/
inductive Phase where
  | booting (id : Int) (others : List Int)
  | sending (n : Nat)
  | silent
  deriving DecidableEq, Repr

namespace Phase

/-- The phase in which some motes, or none, are still to boot. -/
def boots : List Int → Phase
  | [] => sending 0
  | id :: others => booting id others

/-- When the timer of the client is due. -/
def timer? (j : Jitter) : Phase → Option Int
  | sending n => some (j.timerDue n)
  | _ => none

/-- The deadline of a test. -/
def deadline (timeout : Int) : Int × Event κ := (timeout, .expire 0 timeout .builtIn)

/-- The boots of motes, which all have been scheduled before the deadline. -/
def bootQueue (timeout : Int) : List Int → List (Int × Event κ)
  | [] => [deadline timeout]
  | id :: others =>
    if timeout < 1333 * id then
      deadline timeout :: (id :: others).map fun id => (1333 * id, .boot id)
    else (1333 * id, .boot id) :: bootQueue timeout others

/-- The timer of the client, which has been set after the deadline was. -/
def timerQueue (timeout due : Int) : List (Int × Event κ) :=
  if due < timeout then [(due, .tick 3 0), deadline timeout]
  else [deadline timeout, (due, .tick 3 0)]

/-- The pending events with their times. -/
def queue (timeout : Int) (j : Jitter) : Phase → List (Int × Event κ)
  | booting id others => bootQueue timeout (id :: others)
  | sending n => timerQueue timeout (j.timerDue n)
  | silent => [deadline timeout]

/-- Whether the deadline comes next. -/
def Overdue (timeout : Int) (j : Jitter) : Phase → Prop
  | booting id _ => timeout < 1333 * id
  | sending n => timeout ≤ j.timerDue n
  | silent => True

end Phase

/-- The script of a name once some motes have started, and said so. -/
def ScriptName.started (name : ScriptName) (timeout : Int) (echo : Bool) (ids : List Int) : Bench κ :=
  (name.bench timeout echo).hearAll
    (ids.map fun id => ⟨1333 * id, id, Numeral.decimal id ++ " started"⟩)

/-- What an event does to time and to the pending events: at most, the timer of the client is set,
to a time at least ten seconds later. -/
structure Sets (timer? : Option Int) (w w' : World κ μ) : Prop where
  now : w'.now = w.now
  pending : match timer? with
    | none => w'.scheduler.pending = w.scheduler.pending
    | some due => w.now + 10000 ≤ due ∧ ∃ serial,
      w'.scheduler.pending = Scheduler.insert ⟨due, serial, .tick 3 0⟩ w.scheduler.pending

section Agenda

variable {timeout : Int} {w w' : World κ μ} {timer? : Option Int}

theorem World.pops {key : Int × Event κ} {rest : List (Int × Event κ)}
    (agenda : w.agenda = key :: rest) :
    ∃ a s, w.scheduler.next? = some (a, s) ∧ w.scheduler.Takes a s ∧ (a.due, a.event) = key ∧
      ({ w with scheduler := s } : World κ μ).agenda = rest := by
  obtain ⟨a, others, shape, first, remaining⟩ := List.map_eq_cons_iff.mp agenda
  obtain ⟨s, next⟩ := Scheduler.next?_of_pending shape
  have takes := Scheduler.takes_of_next? next
  have tail : s.pending = others := (List.cons.inj (takes.pending.symm.trans shape)).2
  refine ⟨a, s, next, takes, first, ?_⟩
  rw [World.agenda, ← remaining]
  simp only [tail]

/-- The deadline is set after the boots. -/
theorem map_insert_deadline {pending : List (Appointment (Event κ))} {ids : List Int}
    (boots : pending.map (fun a => (a.due, a.event)) = ids.map fun id => (1333 * id, .boot id))
    (serial : Nat) :
    (Scheduler.insert ⟨timeout, serial, .expire 0 timeout .builtIn⟩ pending).map
      (fun a => (a.due, a.event)) = Phase.bootQueue timeout ids := by
  induction ids generalizing pending with
  | nil =>
    obtain rfl := List.map_eq_nil_iff.mp boots
    rfl
  | cons id others ih =>
    obtain ⟨a, rest, rfl, first, remaining⟩ := List.map_eq_cons_iff.mp boots
    obtain ⟨due, event⟩ := Prod.mk.inj first
    unfold Scheduler.insert Phase.bootQueue
    rw [due]
    split
    · simp only [List.map_cons, due, event, remaining]
      rfl
    · simp only [List.map_cons, due, event, ih remaining]

/-- The pending events with which a test on a network starts. -/
theorem Network.Ready.agenda_testing {n : Network} (ready : n.Ready w w') {ids : List Int}
    (boots : w'.agenda = ids.map fun id => (1333 * id, .boot id)) (name : ScriptName) (echo : Bool) :
    (w'.testing name timeout echo).agenda = Phase.bootQueue timeout ids := by
  have now : w'.now + timeout = timeout := by
    rw [ready.now]
    exact Int.zero_add _
  change (Scheduler.insert ⟨w'.now + timeout, w'.scheduler.issued, _⟩ w'.scheduler.pending).map _ = _
  rw [now]
  exact map_insert_deadline boots _

theorem Sets.agenda (sets : Sets timer? w w')
    (agenda : w.agenda = [Phase.deadline timeout]) :
    w'.agenda = match timer? with
      | none => [Phase.deadline timeout]
      | some due => Phase.timerQueue timeout due := by
  cases timer? with
  | none =>
    rw [World.agenda, sets.pending]
    exact agenda
  | some due =>
    obtain ⟨_, serial, pending⟩ := sets.pending
    obtain ⟨e, shape, key⟩ := List.map_eq_singleton_iff.mp agenda
    have time : e.due = timeout := (Prod.mk.inj key).1
    rw [World.agenda, pending, shape]
    simp only [Scheduler.insert, Phase.timerQueue, time]
    split
    · rw [← key]
      rfl
    · rw [← key]
      rfl

/-- The events that may still follow become fewer. -/
theorem Sets.fewer {a : Appointment (Event κ)} {s : Scheduler (Event κ)}
    (sets : Sets timer? { w with scheduler := s } w') (takes : w.scheduler.Takes a s)
    (timely : a.due ≤ timeout) :
    Countdown.total timeout w'.scheduler.pending < Countdown.total timeout w.scheduler.pending := by
  have positive := Countdown.weight_pos timely
  rw [takes.pending, Countdown.total_cons]
  cases timer? with
  | none =>
    rw [sets.pending]
    simp only
    omega
  | some due =>
    obtain ⟨later, serial, pending⟩ := sets.pending
    have now : ({ w with scheduler := s } : World κ μ).now = a.due := takes.now
    have lighter : Countdown.weight timeout due < Countdown.weight timeout a.due :=
      Countdown.weight_lt timely (by omega)
    rw [pending, Countdown.total_insert]
    simp only
    omega

end Agenda

end MoteTrial
